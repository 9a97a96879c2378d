import ComposeHarness.Expectation.Decoding
import ComposeHarness.Inspection.Decoding
import ComposeHarness.ScenarioFile.Basic
import ComposeHarness.Yaml.Source

/-!
# Reading scenario files

A file and its steps have no members but those that are known. The members of an action are first
taken in as content, because its kind, which decides about them, may stand anywhere among them.
-/
namespace ComposeHarness

open Data (Source Content Record)

namespace Action

def src : Source Content := Content.source

def texts : Content → Except String (List String) := src.readList src.text

def millis (r : Record Content) (i : Nat) : Except String (Option Nat) :=
  r.optional (src.readOption (src.readNat (Nat.pow 2 64))) i

def decodeRun (c : Content) : Except String Action := do
  let r ← src.readRecord [["args"], ["allow_error"], ["exit_code"], ["expect"]] false c
  let arguments ← r.required texts 0
  let allowError ← r.withDefault src.bool false 1
  let exitCode ← r.optional (src.readOption src.readInt32) 2
  let expect ← r.withDefault (src.readList (Expectation.decode src)) [] 3
  .ok (.run arguments allowError exitCode expect)

def decodeHttpGet (c : Content) : Except String Action := do
  let r ← src.readRecord [["url"], ["status"], ["interval_ms"], ["timeout_secs"], ["expect"]]
    false c
  let url ← r.required src.text 0
  let status ← r.withDefault (src.readNat (Nat.pow 2 16)) 200 1
  let interval ← millis r 2
  let timeout ← millis r 3
  let expect ← r.withDefault (src.readList (Matcher.decode src)) [] 4
  .ok (.httpGet url status ⟨interval, timeout⟩ expect)

def decodeWaitFor (c : Content) : Except String Action := do
  let r ← src.readRecord [["args"], ["expect"], ["interval_ms"], ["timeout_secs"]] false c
  let arguments ← r.required texts 0
  let expect ← r.required (Expectation.decode src) 1
  let interval ← millis r 2
  let timeout ← millis r 3
  .ok (.waitFor arguments expect ⟨interval, timeout⟩)

def decodeInspectLabels (c : Content) : Except String Action := do
  let r ← src.readRecord [["target"], ["kind"], ["labels"]] false c
  let target ← r.required src.text 0
  let kind ← r.withDefault (ObjectKind.decode src) .container 1
  let labels ← r.required (src.readDict (src.readOption src.text)) 2
  .ok (.inspectLabels target kind labels)

def decodeInspectMounts (c : Content) : Except String Action := do
  let r ← src.readRecord [["target"], ["mounts"]] false c
  let target ← r.required src.text 0
  let mounts ← r.required (src.readList (Mount.decode src)) 1
  .ok (.inspectMounts target mounts)

/-- The action of a kind with its other members. -/
def ofMembers (kind : String) (members : Content) : Except String Action :=
  if kind = "run" then decodeRun members
  else if kind = "http_get" then decodeHttpGet members
  else if kind = "wait_for" then decodeWaitFor members
  else if kind = "inspect_labels" then decodeInspectLabels members
  else if kind = "inspect_mounts" then decodeInspectMounts members
  else .error "unknown variant"

def decode {ν : Type} (source : Source ν) (v : ν) : Except String Action := do
  let (kind, members) ← source.splitMember "action" v
  ofMembers (← source.text kind) members

end Action

namespace StepDefinition

def fields : List (List String) := [["name"], ["best_effort"], ["actions"]]

def decode {ν : Type} (src : Source ν) (v : ν) : Except String StepDefinition := do
  let r ← src.readRecord fields true v
  let name ← r.required src.text 0
  let bestEffort ← r.withDefault src.bool false 1
  let actions ← r.required (src.readList (Action.decode src)) 2
  .ok ⟨name, bestEffort, actions⟩

end StepDefinition

namespace ScenarioFile

def fields : List (List String) :=
  [["name"], ["description"], ["project"], ["working_dir"], ["env"], ["steps"], ["cleanup"]]

def decode {ν : Type} (src : Source ν) (v : ν) : Except String ScenarioFile := do
  let r ← src.readRecord fields true v
  let name ← r.required src.text 0
  let description ← r.optional (src.readOption src.text) 1
  let project ← r.optional (src.readOption src.text) 2
  let workingDir ← r.optional (src.readOption src.text) 3
  let env ← r.withDefault (src.readDict src.text) .empty 4
  let steps ← r.withDefault (src.readList (StepDefinition.decode src)) [] 5
  let cleanup ← r.withDefault (src.readList (StepDefinition.decode src)) [] 6
  .ok { name, description, project, workingDir := workingDir.map Path.mk, env, steps, cleanup }

/-- Reads the text of a file, without looking at what it means. -/
def ofYaml (text : String) : Except String ScenarioFile := do
  let document ← Yaml.Document.parse text
  decode document.source document.cursor

end ScenarioFile
end ComposeHarness
