import ComposeHarness.Command.Run
import ComposeHarness.Inspection.Decoding

/-!
# Inspecting through the binary

An object is inspected by running the binary and reading what it prints.
-/
namespace ComposeHarness.Session

variable {σ : Type}

/-- The failure of an inspection that finds nothing. -/
def nothingFound (kind : ObjectKind) (name : String) (r : Command.Result) : Failure :=
  .expectation (kind.label ++ " '" ++ name ++ "' to exist") ("'" ++ r.command ++ "'") r.combined

/-- The first of the objects that the binary prints. -/
def firstObject (kind : ObjectKind) (name : String) (r : Command.Result) :
    Except Failure InspectedObject := do
  match ← InspectedObject.parseAll r.stdout with
  | o :: _ => .ok o
  | [] => .error (nothingFound kind name r)

/-- Inspects one object. -/
def inspect (host : Host σ) (s : Session) (kind : ObjectKind) (name : String) :
    Act σ InspectedObject := do
  let r ← s.run host (kind.inspectArguments name)
  Act.ofExcept (firstObject kind name r)

end ComposeHarness.Session
