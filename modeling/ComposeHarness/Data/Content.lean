/-!
# Content

A value of a document once its format no longer matters: what a reader keeps while it does not
know yet what the value will be needed for. An integer keeps whether it has a minus sign, because
only one without can be the position of a field. Of a number with a fraction nothing is kept but
that it is one, because no record has a field for it.
-/
namespace ComposeHarness.Data

inductive Content where
  | unit
  | bool (b : Bool)
  | natural (n : Nat)
  /-- An integer with a minus sign in front of its digits. -/
  | negative (n : Nat)
  | float
  | text (s : String)
  | list (items : List Content)
  | map (entries : List (Content × Content))
  deriving Repr, Inhabited

end ComposeHarness.Data
