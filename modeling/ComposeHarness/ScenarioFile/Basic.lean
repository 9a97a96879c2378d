import ComposeHarness.Expectation
import ComposeHarness.Inspection
import ComposeHarness.Path
import ComposeHarness.Poll

/-!
# Scenario files

What a scenario file says: its steps and cleanups, and the actions of each. Texts of an action may
hold placeholders, which are expanded for the scenario's project when the action is performed.
-/
namespace ComposeHarness

/-- An interval and a timeout that an action may set for its poll. -/
structure Timing where
  intervalMillis : Option Nat
  timeoutSeconds : Option Nat
  deriving Repr, DecidableEq

/-- A poll's interval and timeout with what an action sets in their place. -/
def Timing.apply (t : Timing) (spec : PollSpec) : PollSpec :=
  spec.override (t.intervalMillis.map Duration.ofMillis) (t.timeoutSeconds.map Duration.ofSeconds)

inductive Action where
  /-- Runs the binary once. An exit code other than zero is accepted if `allowError` is set, or if
  `exitCode` asks for one. -/
  | run (arguments : List String) (allowError : Bool) (exitCode : Option Int)
      (expect : List Expectation)
  /-- Requests a URL until it answers with a status, then checks the body. -/
  | httpGet (url : String) (status : Nat) (timing : Timing) (expect : List Matcher)
  /-- Runs the binary again and again until its output satisfies an expectation. -/
  | waitFor (arguments : List String) (expect : Expectation) (timing : Timing)
  /-- Inspects an object and checks its labels. -/
  | inspectLabels (target : String) (kind : ObjectKind) (labels : Dict (Option String))
  /-- Inspects a container and checks its mounts. -/
  | inspectMounts (target : String) (mounts : List Mount)
  deriving Repr, DecidableEq

structure StepDefinition where
  name : String
  bestEffort : Bool
  actions : List Action
  deriving Repr, DecidableEq

structure ScenarioFile where
  name : String
  description : Option String := none
  /-- A fixed project; without one each run gets its own. -/
  project : Option String := none
  workingDir : Option Path := none
  env : Dict String := .empty
  steps : List StepDefinition := []
  cleanup : List StepDefinition := []
  /-- Where the file was read from. -/
  source : Path := ⟨""⟩
  deriving Repr, DecidableEq

namespace ScenarioFile

/-- The directory against which relative paths in the file are resolved. -/
def baseDirectory (f : ScenarioFile) : Path :=
  match f.source.parent with
  | some directory => if directory.isEmpty then ⟨"."⟩ else directory
  | none => ⟨"."⟩

/-- All definitions, the steps before the cleanups. -/
def definitions (f : ScenarioFile) : List StepDefinition := f.steps ++ f.cleanup

end ScenarioFile
end ComposeHarness
