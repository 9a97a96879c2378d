import ComposeHarness.Naming
import ComposeHarness.ScenarioFile.Decoding
import ComposeHarness.Text.Blank

/-!
# Checking scenario files

Everything that can be said to be wrong with a file before it is run. The first offence in the order
of the file is reported, together with the name of its step. Placeholders are tried out on a project
of no meaning, and patterns are compiled as they are written.
-/
namespace ComposeHarness

/-- The project on which placeholders are tried out. -/
def trialProject : String := "validate"

/-- Whether the placeholders of a text are well formed. -/
def checkPlaceholders (text : String) : Except Failure Unit :=
  (NamingScheme.standard.expand text trialProject).map fun _ => ()

def Matcher.checkPattern (m : Matcher) : Except Failure Unit :=
  match m with
  | .pattern p =>
    match Regex.compile p with
    | .ok _ => .ok ()
    | .error cause => .error (.config (invalidPattern p cause))
  | _ => .ok ()

def Matcher.validate (m : Matcher) : Except Failure Unit := do
  checkPlaceholders m.operand
  m.checkPattern

namespace Action

/-- A command needs at least one argument. -/
def checkArguments (kind : String) (arguments : List String) : Except Failure Unit := do
  if arguments.isEmpty then
    .error (.config (kind ++ " action needs at least one argument"))
  else arguments.forM checkPlaceholders

def validate : Action → Except Failure Unit
  | .run arguments _ _ expect => do
    checkArguments "run" arguments
    expect.forM fun e => e.matcher.validate
  | .httpGet url _ _ expect => do
    checkPlaceholders url
    expect.forM Matcher.validate
  | .waitFor arguments expect _ => do
    checkArguments "wait_for" arguments
    expect.matcher.validate
  | .inspectLabels target _ labels => do
    checkPlaceholders target
    (labels.entries.filterMap (·.2)).forM checkPlaceholders
  | .inspectMounts target mounts => do
    checkPlaceholders target
    (mounts.filterMap Mount.source).forM checkPlaceholders

end Action

namespace StepDefinition

/-- The offence of one of the step's actions, with the name of the step. -/
def located (d : StepDefinition) (f : Failure) : Failure :=
  .config ("step '" ++ d.name ++ "': " ++ f.message)

def validate (d : StepDefinition) : Except Failure Unit :=
  if d.actions.isEmpty then .error (.config ("step '" ++ d.name ++ "' has no actions"))
  else d.actions.forM fun a => (a.validate).mapError d.located

end StepDefinition

namespace ScenarioFile

def checkName (f : ScenarioFile) : Except Failure Unit :=
  if Text.isAllBlank f.name then .error (.config "scenario name must not be empty") else .ok ()

def checkProject (f : ScenarioFile) : Except Failure Unit :=
  match f.project with
  | some id => (ProjectId.ofString? id).map fun _ => ()
  | none => .ok ()

/-- Checks everything that can be checked without running. -/
def validate (f : ScenarioFile) : Except Failure Unit := do
  f.checkName
  f.checkProject
  f.definitions.forM StepDefinition.validate

/-- Reads and checks the text of a file. -/
def parse (text : String) : Except Failure ScenarioFile := do
  match ofYaml text with
  | .error reason => .error (.configSyntax ("invalid scenario: " ++ reason))
  | .ok f =>
    f.validate
    .ok f

end ScenarioFile
end ComposeHarness
