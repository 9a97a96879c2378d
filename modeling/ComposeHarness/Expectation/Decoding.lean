import ComposeHarness.Data.Source
import ComposeHarness.Expectation

/-!
# Reading expectations

A matcher is a choice with a text. An expectation is a map that holds such a choice as one of its
members, beside an optional stream; the first member that names a matcher counts, and members that
name nothing are passed over.
-/
namespace ComposeHarness

open Data (Source Content Key)

namespace Stream

def choices : List (String × Stream) :=
  [("stdout", .stdout), ("stderr", .stderr), ("combined", .combined)]

/-- The name of a stream in documents. -/
def key : Stream → String
  | .stdout => "stdout"
  | .stderr => "stderr"
  | .combined => "combined"

def decode {ν : Type} (src : Source ν) (v : ν) : Except String Stream :=
  src.readUnitVariant choices v

end Stream

namespace Matcher

def choices : List (String × (String → Matcher)) :=
  [("contains", .contains), ("not_contains", .notContains), ("equals", .equals),
    ("matches", .pattern)]

/-- The name of a matcher in documents. -/
def key : Matcher → String
  | .contains _ => "contains"
  | .notContains _ => "not_contains"
  | .equals _ => "equals"
  | .pattern _ => "matches"

def decode {ν : Type} (src : Source ν) (v : ν) : Except String Matcher :=
  src.readTextVariant choices v

end Matcher

namespace Expectation

/-- The members of an expectation, read one by one: its stream, and all others as content under the
names they have. -/
def splitMembers {ν : Type} (src : Source ν) :
    List (ν × ν) → Except String (Option Stream × List (String × Content))
  | [] => .ok (none, [])
  | (k, v) :: rest => do
    let key ← src.key k
    match key with
    | .index _ =>
      let _ ← src.content v
      splitMembers src rest
    | .name name =>
      if name = "stream" then
        let stream ← Stream.decode src v
        let (other, members) ← splitMembers src rest
        match other with
        | some _ => .error "duplicate field"
        | none => .ok (some stream, members)
      else
        let c ← src.content v
        let (stream, members) ← splitMembers src rest
        .ok (stream, (name, c) :: members)

/-- The first member that names a matcher. -/
def firstMatcher : List (String × Content) → Except String Matcher
  | [] => .error "no matcher"
  | (name, c) :: rest =>
    match Matcher.choices.lookup name with
    | some make => make <$> Content.source.text c
    | none => firstMatcher rest

def decode {ν : Type} (src : Source ν) (v : ν) : Except String Expectation := do
  let entries ← src.entries v
  let (stream, members) ← splitMembers src entries
  let matcher ← firstMatcher members
  .ok ⟨stream.getD .combined, matcher⟩

end Expectation
end ComposeHarness
