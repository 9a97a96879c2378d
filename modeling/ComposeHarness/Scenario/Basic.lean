import ComposeHarness.Naming
import ComposeHarness.Poll
import ComposeHarness.Scenario.Report
import ComposeHarness.Session

/-!
# Scenarios

A scenario is a list of named steps for one project. Regular and best-effort steps run in order, and
none of them stops the ones after it. Cleanup steps run after all of these, the latest first,
whatever happened before.
-/
namespace ComposeHarness

/-- What a step that panics leaves behind. -/
inductive Payload where
  | text (message : String)
  | opaqueValue
  deriving Repr, DecidableEq

def Payload.message : Payload → String
  | .text message => message
  | .opaqueValue => "non-string panic payload"

/-- How the action of a step ends. -/
inductive Ending where
  | done
  | failed (failure : Failure)
  | panicked (payload : Payload)
  deriving Repr, DecidableEq

def Ending.ofExcept : Except Failure Unit → Ending
  | .ok _ => .done
  | .error failure => .failed failure

/-- The kind and message of an action that went wrong. -/
def Ending.problem : Ending → Option (FailureKind × String)
  | .done => none
  | .failed failure => some (failure.kind, failure.message)
  | .panicked payload => some (.command, "step panicked: " ++ payload.message)

/-- What a step can reach: its scenario and the scenario's defaults. -/
structure Context where
  scenario : String
  session : Session
  project : ProjectId
  naming : NamingScheme
  poll : PollSpec
  deriving Repr, DecidableEq

/-- Expands the placeholders of a text for the project of a scenario. -/
def Context.expand (ctx : Context) (input : String) : Except Failure String :=
  ctx.naming.expand input ctx.project.text

structure Step (σ : Type) where
  name : String
  kind : StepKind
  action : Context → Timed σ Ending

structure Scenario (σ : Type) where
  name : String
  session : Session
  project : ProjectId
  naming : NamingScheme := .standard
  poll : PollSpec := .standard
  steps : List (Step σ) := []

/-- What an ending means for a step of a kind. -/
def StepOutcome.ofEnding (kind : StepKind) (ending : Ending) : StepOutcome :=
  match ending.problem, kind with
  | none, _ => .passed
  | some (failureKind, message), .regular => .failed failureKind message
  | some (_, message), _ => .cleanupFailed message

namespace Step

variable {σ : Type}

/-- Runs one step and reports it. -/
def run (ctx : Context) (step : Step σ) : Timed σ StepReport := do
  let (ending, duration) ← (step.action ctx).measured
  return ⟨step.name, step.kind, .ofEnding step.kind ending, duration⟩

end Step

namespace Scenario

variable {σ : Type}

def context (s : Scenario σ) : Context := ⟨s.name, s.session, s.project, s.naming, s.poll⟩

def size (s : Scenario σ) : Nat := s.steps.length

def isEmpty (s : Scenario σ) : Bool := s.steps.isEmpty

/-- Registers one more step. -/
def push (s : Scenario σ) (step : Step σ) : Scenario σ := { s with steps := s.steps ++ [step] }

/-- Registers a step whose failure fails the scenario. -/
def step (s : Scenario σ) (name : String) (action : Context → Timed σ Ending) : Scenario σ :=
  s.push ⟨name, .regular, action⟩

/-- Registers a step whose failure is only noted. -/
def bestEffort (s : Scenario σ) (name : String) (action : Context → Timed σ Ending) :
    Scenario σ :=
  s.push ⟨name, .bestEffort, action⟩

/-- Registers a cleanup. -/
def cleanup (s : Scenario σ) (name : String) (action : Context → Timed σ Ending) : Scenario σ :=
  s.push ⟨name, .cleanup, action⟩

def isCleanup (step : Step σ) : Bool := step.kind = .cleanup

/-- The steps in the order in which they run: those that are no cleanups, then the cleanups, the
latest first. -/
def order (steps : List (Step σ)) : List (Step σ) :=
  steps.filter (fun step => !isCleanup step) ++ (steps.filter isCleanup).reverse

/-- Runs every step and reports what happened. -/
def run (s : Scenario σ) : Timed σ ScenarioReport := do
  let (reports, duration) ← ((order s.steps).mapM (Step.run s.context)).measured
  return ⟨s.name, s.project.text, reports, duration⟩

end Scenario
end ComposeHarness
