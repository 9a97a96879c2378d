import ComposeHarness.Dict
import ComposeHarness.Failure
import ComposeHarness.Text.Quoted

/-!
# Inspected objects

What the command line tells of one container, network, volume or image, as far as labels and mounts
are concerned, and the expectations on it.
-/
namespace ComposeHarness

/-- The kinds of object that can be inspected. -/
inductive ObjectKind where
  | container
  | network
  | volume
  | image
  deriving Repr, DecidableEq

instance : Inhabited ObjectKind := ⟨.container⟩

def ObjectKind.label : ObjectKind → String
  | .container => "container"
  | .network => "network"
  | .volume => "volume"
  | .image => "image"

/-- The arguments that make the command line print an object. -/
def ObjectKind.inspectArguments (kind : ObjectKind) (name : String) : List String :=
  match kind with
  | .container => ["inspect", name]
  | _ => [kind.label, "inspect", name]

/-- A mount of a container, or what is expected of one. -/
structure Mount where
  type : String
  source : Option String
  target : String
  readOnly : Option Bool
  deriving Repr, DecidableEq

namespace Mount

/-- Whether an actual mount satisfies an expected one. What the expected one leaves open is not
compared, and an actual mount that says nothing about it can be written to. -/
def satisfiedBy (want actual : Mount) : Bool :=
  want.type == actual.type && want.target == actual.target &&
    want.source.all (fun s => actual.source == some s) &&
    want.readOnly.all (fun flag => actual.readOnly.getD false == flag)

def describe (m : Mount) : String :=
  m.type ++ " " ++ (match m.source with | some s => s ++ ":" | none => "") ++ m.target ++
    (if m.readOnly = some true then " (ro)" else "")

end Mount

/-- The labels and mounts of one object. -/
structure InspectedObject where
  name : String
  labels : Dict String
  mounts : List Mount
  deriving Repr, DecidableEq

namespace InspectedObject

/-- What is wrong with one label, if anything: it is missing, or it has another value than the one
that is wanted. -/
def labelProblem (actual : Option String) (key : String) (want : Option String) : Option String :=
  match actual, want with
  | none, _ => some ("missing label " ++ Text.quoted key)
  | some _, none => none
  | some actual, some want =>
    if actual = want then none
    else some ("label " ++ Text.quoted key ++ " is " ++ Text.quoted actual ++ ", expected " ++
      Text.quoted want)

def labelProblems (o : InspectedObject) (expected : Dict (Option String)) : List String :=
  expected.entries.filterMap fun (key, want) => labelProblem (o.labels.get? key) key want

def describeLabels (labels : Dict String) : String :=
  String.intercalate "\n"
    (labels.entries.map fun (key, value) => Text.quoted key ++ ": " ++ Text.quoted value)

/-- Every expected key must be there, and with the expected value if there is one. -/
def expectLabels (o : InspectedObject) (expected : Dict (Option String)) : Except Failure Unit :=
  match o.labelProblems expected with
  | [] => .ok ()
  | problems =>
    .error (.expectation (String.intercalate "; " problems) ("labels of '" ++ o.name ++ "'")
      (describeLabels o.labels))

/-- The expected mounts that no actual mount satisfies. -/
def missingMounts (o : InspectedObject) (expected : List Mount) : List Mount :=
  expected.filter fun want => !o.mounts.any want.satisfiedBy

/-- Every expected mount must be satisfied by an actual one. -/
def expectMounts (o : InspectedObject) (expected : List Mount) : Except Failure Unit :=
  match o.missingMounts expected with
  | [] => .ok ()
  | missing =>
    .error (.expectation
      (String.intercalate "; " (missing.map fun want => "mount " ++ want.describe))
      ("mounts of '" ++ o.name ++ "'")
      (String.intercalate "\n" (o.mounts.map Mount.describe)))

end InspectedObject
end ComposeHarness
