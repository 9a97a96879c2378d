import ComposeHarness.Failure

/-!
# Reports of scenarios

What happened to each step of a scenario, and to all scenarios of a suite. Only a regular step can
fail; a best-effort or cleanup step that goes wrong is noted and never counted.
-/
namespace ComposeHarness

/-- How a step's failure is treated, and when the step runs. -/
inductive StepKind where
  | regular
  | bestEffort
  /-- Put off until the end; the latest cleanup runs first. -/
  | cleanup
  deriving Repr, DecidableEq

inductive StepOutcome where
  | passed
  | failed (kind : FailureKind) (message : String)
  | cleanupFailed (message : String)
  deriving Repr, DecidableEq

structure StepReport where
  name : String
  kind : StepKind
  outcome : StepOutcome
  duration : Duration
  deriving Repr, DecidableEq

namespace StepReport

def isFailure (r : StepReport) : Bool :=
  match r.outcome with
  | .failed .. => true
  | _ => false

def isCleanupFailure (r : StepReport) : Bool :=
  match r.outcome with
  | .cleanupFailed _ => true
  | _ => false

def isPass (r : StepReport) : Bool :=
  match r.outcome with
  | .passed => true
  | _ => false

end StepReport

structure ScenarioReport where
  name : String
  project : String
  steps : List StepReport
  duration : Duration
  deriving Repr, DecidableEq

namespace ScenarioReport

/-- A scenario passes unless a regular step failed. -/
def passed (r : ScenarioReport) : Bool := !r.steps.any StepReport.isFailure

def failures (r : ScenarioReport) : List StepReport := r.steps.filter StepReport.isFailure

def cleanupFailures (r : ScenarioReport) : List StepReport :=
  r.steps.filter StepReport.isCleanupFailure

end ScenarioReport

/-- The reports of all scenarios of a suite, in the order of their registration. -/
structure SuiteReport where
  scenarios : List ScenarioReport
  duration : Duration
  deriving Repr, DecidableEq

namespace SuiteReport

def succeeded (r : SuiteReport) : Bool := r.scenarios.all ScenarioReport.passed

def passedCount (r : SuiteReport) : Nat := (r.scenarios.filter ScenarioReport.passed).length

def failedCount (r : SuiteReport) : Nat := r.scenarios.length - r.passedCount

/-- The exit code of the program after this suite. -/
def exitCode (r : SuiteReport) : Int := if r.succeeded then 0 else 1

/-- The first report with a name. -/
def get? (r : SuiteReport) (name : String) : Option ScenarioReport :=
  r.scenarios.find? (fun s => s.name == name)

end SuiteReport
end ComposeHarness
