/-!
# Sets of characters as ranges

A property of characters is kept as the ascending list of its ranges. The tables write it down as
hexadecimal numbers, each range as its distance from the end of the one before and its length. The
sets are closed under union, complement and what these two make up.
-/
namespace ComposeHarness.Text

/-- Ascending, disjoint ranges of code points, both ends included. -/
structure CharRanges where
  ranges : Array (Nat × Nat)
  deriving Repr, Inhabited

namespace CharRanges

def hexDigit (c : Char) : Nat :=
  if c.isDigit then c.toNat - '0'.toNat else c.toNat - 'a'.toNat + 10

/-- The numbers of one row of a table: hexadecimal, with one space between two of them. -/
def numbers (row : String) : List Nat :=
  let step := fun (acc : Option Nat × List Nat) (c : Char) =>
    if c == ' ' then
      match acc with
      | (some n, done) => (none, n :: done)
      | (none, done) => (none, done)
    else (some (acc.1.getD 0 * 16 + hexDigit c), acc.2)
  match row.toList.foldl step (none, []) with
  | (some n, done) => (n :: done).reverse
  | (none, done) => done.reverse

def ofNumbers (next : Nat) : List Nat → List (Nat × Nat)
  | gap :: length :: rest =>
    (next + gap, next + gap + length) :: ofNumbers (next + gap + length + 1) rest
  | _ => []

/-- Reads the rows of a table: for each range how many code points lie before it, then how many
follow its first one. -/
def ofTable (rows : List String) : CharRanges :=
  ⟨(ofNumbers 0 (rows.flatMap numbers)).toArray⟩

/-- Whether one of the ranges in `lo ..< hi` holds the code point, by halving. -/
def holds (ranges : Array (Nat × Nat)) (n : Nat) : (fuel lo hi : Nat) → Bool
  | 0, _, _ => false
  | fuel + 1, lo, hi =>
    if hi ≤ lo then false
    else
      let mid := (lo + hi) / 2
      match ranges[mid]? with
      | none => false
      | some (a, b) =>
        if n < a then holds ranges n fuel lo mid
        else if b < n then holds ranges n fuel (mid + 1) hi
        else true

def holdsCode (set : CharRanges) (n : Nat) : Bool :=
  holds set.ranges n (set.ranges.size + 1) 0 set.ranges.size

def contains (set : CharRanges) (c : Char) : Bool := set.holdsCode c.toNat

/-! ### Building sets -/

def lastCode : Nat := 0x10FFFF

/-- Joins ranges that overlap or touch, where all of them are sorted by their start and come after
the range that is being built. -/
def mergeFrom (a b : Nat) : List (Nat × Nat) → List (Nat × Nat)
  | [] => [(a, b)]
  | (c, d) :: rest =>
    if c ≤ b + 1 then mergeFrom a (max b d) rest else (a, b) :: mergeFrom c d rest

def merge : List (Nat × Nat) → List (Nat × Nat)
  | [] => []
  | (a, b) :: rest => mergeFrom a b rest

/-- The set of all code points of some ranges, in any order. -/
def ofRanges (ranges : List (Nat × Nat)) : CharRanges :=
  ⟨(merge (ranges.mergeSort (fun a b => decide (a.1 ≤ b.1)))).toArray⟩

def empty : CharRanges := ⟨#[]⟩

def all : CharRanges := ⟨#[(0, lastCode)]⟩

def toList (set : CharRanges) : List (Nat × Nat) := set.ranges.toList

def union (s t : CharRanges) : CharRanges := ofRanges (s.toList ++ t.toList)

/-- The gaps between ascending ranges, from `next` on. -/
def gaps (next : Nat) : List (Nat × Nat) → List (Nat × Nat)
  | [] => if next ≤ lastCode then [(next, lastCode)] else []
  | (a, b) :: rest => (if next < a then [(next, a - 1)] else []) ++ gaps (b + 1) rest

def complement (s : CharRanges) : CharRanges := ⟨(gaps 0 s.toList).toArray⟩

def inter (s t : CharRanges) : CharRanges := (s.complement.union t.complement).complement

def diff (s t : CharRanges) : CharRanges := s.inter t.complement

/-- The code points that are in exactly one of two sets. -/
def symmDiff (s t : CharRanges) : CharRanges := (s.diff t).union (t.diff s)

/-- The set with its ranges cut back to characters; a range that starts and ends outside the
surrogates stays as it is. -/
def withoutSurrogates (s : CharRanges) : CharRanges :=
  ⟨s.ranges.filterMap fun (a, b) =>
    let a := if 0xD800 ≤ a && a ≤ 0xDFFF then 0xE000 else a
    let b := if 0xD800 ≤ b && b ≤ 0xDFFF then 0xD7FF else b
    if a ≤ b then some (a, b) else none⟩

/-- A set with nothing outside ASCII in it. -/
def isAscii (s : CharRanges) : Bool := s.ranges.all (fun r => r.2 < 0x80)

example : (complement (ofRanges [(5, 7), (0, 2), (3, 3)])).toList = [(4, 4), (8, lastCode)] := by
  cbv

end CharRanges
end ComposeHarness.Text
