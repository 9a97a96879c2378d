import ComposeHarness.Inspection
import ComposeHarness.Json.Reading

/-!
# Reading inspected objects

The output of an inspection is a JSON array of objects. Names and labels come from several places,
and whatever may be missing may also be null.
-/
namespace ComposeHarness

open Data (Source Record)

namespace ObjectKind

def choices : List (String × ObjectKind) :=
  [("container", .container), ("network", .network), ("volume", .volume), ("image", .image)]

def decode {ν : Type} (src : Source ν) (v : ν) : Except String ObjectKind :=
  src.readUnitVariant choices v

end ObjectKind

namespace Mount

/-- The fields of a mount with all their names. -/
def fields : List (List String) :=
  [["Type", "type"], ["Source", "source"], ["Target", "target"], ["ReadOnly", "read_only"]]

def decode {ν : Type} (src : Source ν) (v : ν) : Except String Mount := do
  let r ← src.readRecord fields false v
  let type ← r.required src.text 0
  let source ← r.withDefault (src.readOption src.text) none 1
  let target ← r.required src.text 2
  let readOnly ← r.withDefault (src.readOption src.bool) none 3
  .ok ⟨type, source, target, readOnly⟩

end Mount

namespace InspectedObject

/-- A member that may be missing or null. -/
def readNullable {ν α : Type} (src : Source ν) (r : Record ν) (read : ν → Except String α)
    (i : Nat) : Except String (Option α) :=
  r.withDefault (src.readOption read) none i

/-- The name without the slashes before it, or else the first tag. -/
def pickName (name : Option String) (tags : Option (List String)) : String :=
  match name with
  | some name => String.ofList (name.toList.dropWhile (· == '/'))
  | none => (tags.bind List.head?).getD ""

/-- One object. Labels of the configuration come before those of the object itself. -/
def decode {ν : Type} (src : Source ν) (v : ν) : Except String InspectedObject := do
  let r ← src.readRecord [["Name"], ["RepoTags"], ["Labels"], ["Config"], ["HostConfig"]] false v
  let name ← readNullable src r src.text 0
  let tags ← readNullable src r (src.readList src.text) 1
  let labels ← readNullable src r (src.readDict src.text) 2
  let configLabels ← readNullable src r (fun config => do
    let c ← src.readRecord [["Labels"]] false config
    readNullable src c (src.readDict src.text) 0) 3
  let mounts ← readNullable src r (fun config => do
    let c ← src.readRecord [["Mounts"]] false config
    readNullable src c (src.readList (Mount.decode src)) 0) 4
  .ok
    { name := pickName name tags
      labels := (configLabels.join.orElse fun _ => labels).getD .empty
      mounts := mounts.join.getD [] }

/-- Reads the array of objects that an inspection prints. -/
def parseAll (json : String) : Except Failure (List InspectedObject) :=
  let read := do
    let document ← Json.parse json
    Json.source.readList (decode Json.source) (Json.root document)
  match read with
  | .ok objects => .ok objects
  | .error reason => .error (.json reason)

end InspectedObject
end ComposeHarness
