import ComposeHarness.Regex.Expr

/-!
# What an expression matches

An expression matches a text if some part of the text can be read along it. The matcher marks the
sets that the characters read so far can have ended in, and moves all marks over one character at a
time, so that its work grows with the product of the sizes of expression and text.
-/
namespace ComposeHarness.Regex

open Text (CharRanges)

/-- An expression with counted repetitions written out, whose sets can be marked. -/
inductive Marked where
  | empty
  | set (mark : Bool) (members : CharRanges)
  | look (l : Look)
  | seq (a b : Marked)
  | alt (a b : Marked)
  | star (inner : Marked)

namespace Marked

/-- A number of copies in a row. -/
def copies (r : Marked) : (fuel n : Nat) → Marked
  | 0, _ => .empty
  | fuel + 1, n =>
    if n == 0 then .empty
    else if n == 1 then r
    else .seq (copies r fuel (n / 2)) (copies r fuel (n - n / 2))

/-- Characters one after the other. -/
def ofText : List Char → Marked
  | [] => .empty
  | [c] => .set false (.ofRanges [(c.toNat, c.toNat)])
  | c :: cs => .seq (.set false (.ofRanges [(c.toNat, c.toNat)])) (ofText cs)

mutual

def ofExpr : Expr → Marked
  | .empty => .empty
  | .literal text => ofText text
  | .set members => .set false members
  | .look l => .look l
  | .capture inner => ofExpr inner
  | .repetition least most _ inner =>
    let r := ofExpr inner
    match most with
    | none => .seq (copies r least least) (.star r)
    | some most => .seq (copies r least least) (copies (.alt .empty r) most (most - least))
  | .concat parts => ofParts parts
  | .alternation branches => ofBranches branches

def ofParts : List Expr → Marked
  | [] => .empty
  | [e] => ofExpr e
  | e :: es => .seq (ofExpr e) (ofParts es)

/-- No branches at all are a set that holds nothing. -/
def ofBranches : List Expr → Marked
  | [] => .set false .empty
  | [e] => ofExpr e
  | e :: es => .alt (ofExpr e) (ofBranches es)

end

/-- Whether nothing at all can be read along the expression at a place. -/
def nullable (before after : Option Char) : Marked → Bool
  | .empty => true
  | .set .. => false
  | .look l => l.holds before after
  | .seq a b => nullable before after a && nullable before after b
  | .alt a b => nullable before after a || nullable before after b
  | .star _ => true

/-- Whether the end can be reached from a mark at a place. -/
def final (before after : Option Char) : Marked → Bool
  | .empty => false
  | .set mark _ => mark
  | .look _ => false
  | .seq a b => (final before after a && nullable before after b) || final before after b
  | .alt a b => final before after a || final before after b
  | .star inner => final before after inner

/-- Moves the marks over the character `c` that comes after a place; `entering` puts one more mark
in front of the expression. -/
def shift (before : Option Char) (c : Char) (entering : Bool) : Marked → Marked
  | .empty => .empty
  | .set _ members => .set (entering && members.contains c) members
  | .look l => .look l
  | .seq a b =>
    let passing := final before (some c) a || (entering && nullable before (some c) a)
    .seq (shift before c entering a) (shift before c passing b)
  | .alt a b => .alt (shift before c entering a) (shift before c entering b)
  | .star inner => .star (shift before c (entering || final before (some c) inner) inner)

/-- Whether a match ends at this place or at a later one. -/
def search (before : Option Char) (r : Marked) : List Char → Bool
  | [] => nullable before none r || final before none r
  | c :: cs =>
    nullable before (some c) r || final before (some c) r ||
      search (some c) (shift before c true r) cs

end Marked

/-- Whether some part of the text matches. -/
def Expr.isMatch (e : Expr) (text : List Char) : Bool :=
  Marked.search none (Marked.ofExpr e) text

end ComposeHarness.Regex
