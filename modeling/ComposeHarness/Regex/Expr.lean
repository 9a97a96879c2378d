import ComposeHarness.Text.CharRanges

/-!
# Regular expressions

An expression is built from texts, from sets of characters and from conditions on the place between
two characters. The operations that put expressions together keep them simple: texts in a row
become one, sequences and alternatives are flat, and a choice between single characters is a set.
-/
namespace ComposeHarness.Regex

open Text (CharRanges)

/-- What a word condition asks of the two sides of a place. -/
inductive WordSide where
  | boundary
  | notBoundary
  | start
  | finish
  | startHalf
  | finishHalf
  deriving Repr, DecidableEq

/-- A condition on a place in the text. -/
inductive Look where
  | textStart
  | textEnd
  | lineStart
  | lineEnd
  /-- Lines may also end at a carriage return, or at one with a line feed after it. -/
  | anyLineStart
  | anyLineEnd
  | word (side : WordSide) (members : CharRanges)
  deriving Repr

/-- Whether the condition holds between the two neighbours of a place. -/
def Look.holds (before after : Option Char) : Look → Bool
  | .textStart => before.isNone
  | .textEnd => after.isNone
  | .lineStart => before.isNone || before == some '\n'
  | .lineEnd => after.isNone || after == some '\n'
  | .anyLineStart =>
    before.isNone || before == some '\n' || (before == some '\r' && after != some '\n')
  | .anyLineEnd =>
    after.isNone || after == some '\r' || (after == some '\n' && before != some '\r')
  | .word side members =>
    let left := before.any members.contains
    let right := after.any members.contains
    match side with
    | .boundary => left != right
    | .notBoundary => left == right
    | .start => !left && right
    | .finish => left && !right
    | .startHalf => !left
    | .finishHalf => !right

inductive Expr where
  | empty
  /-- A text that is not empty. -/
  | literal (text : List Char)
  | set (members : CharRanges)
  | look (l : Look)
  | repetition (least : Nat) (most : Option Nat) (greedy : Bool) (inner : Expr)
  | capture (inner : Expr)
  | concat (parts : List Expr)
  | alternation (branches : List Expr)
  deriving Repr, Inhabited

namespace Expr

/-! ### Equality -/

def sameLook : Look → Look → Bool
  | .textStart, .textStart => true
  | .textEnd, .textEnd => true
  | .lineStart, .lineStart => true
  | .lineEnd, .lineEnd => true
  | .anyLineStart, .anyLineStart => true
  | .anyLineEnd, .anyLineEnd => true
  | .word side members, .word side' members' => side == side' && members.ranges == members'.ranges
  | _, _ => false

mutual

/-- Whether two expressions are the same, where no group that captures is the same as another. -/
def same : Expr → Expr → Bool
  | .empty, .empty => true
  | .literal a, .literal b => a == b
  | .set a, .set b => a.ranges == b.ranges
  | .look a, .look b => sameLook a b
  | .repetition least most greedy inner, .repetition least' most' greedy' inner' =>
    least == least' && most == most' && greedy == greedy' && same inner inner'
  | .concat as, .concat bs => sameList as bs
  | .alternation as, .alternation bs => sameList as bs
  | _, _ => false

def sameList : List Expr → List Expr → Bool
  | [], [] => true
  | a :: as, b :: bs => same a b && sameList as bs
  | _, _ => false

end

/-! ### Lengths -/

/-- How many bytes the code point takes in UTF-8. -/
def codeWidth (n : Nat) : Nat :=
  if n < 0x80 then 1 else if n < 0x800 then 2 else if n < 0x10000 then 3 else 4

/-- The least of some lengths; none as soon as one of them is missing. -/
def leastOf : List (Option Nat) → Option Nat
  | [] => none
  | [n] => n
  | n :: ns => do return min (← n) (← leastOf ns)

def mostOf : List (Option Nat) → Option Nat
  | [] => none
  | [n] => n
  | n :: ns => do return max (← n) (← mostOf ns)

def sumOf (ns : List (Option Nat)) : Option Nat :=
  ns.foldl (fun sum n => do return (← sum) + (← n)) (some 0)

mutual

/-- The fewest bytes a match takes, if there is one. -/
def leastLength : Expr → Option Nat
  | .empty | .look _ => some 0
  | .literal text => some ((text.map (fun c => codeWidth c.toNat)).sum)
  | .set members => members.ranges[0]?.map (fun r => codeWidth r.1)
  | .repetition least _ _ inner => (leastLength inner).map (· * least)
  | .capture inner => leastLength inner
  | .concat parts => sumOf (leastLengths parts)
  | .alternation branches => leastOf (leastLengths branches)

def leastLengths : List Expr → List (Option Nat)
  | [] => []
  | e :: es => leastLength e :: leastLengths es

end

mutual

/-- The most bytes a match takes, if there is a bound. -/
def mostLength : Expr → Option Nat
  | .empty | .look _ => some 0
  | .literal text => some ((text.map (fun c => codeWidth c.toNat)).sum)
  | .set members => members.ranges.back?.map (fun r => codeWidth r.2)
  | .repetition _ most _ inner => do return (← mostLength inner) * (← most)
  | .capture inner => mostLength inner
  | .concat parts => sumOf (mostLengths parts)
  | .alternation branches => mostOf (mostLengths branches)

def mostLengths : List Expr → List (Option Nat)
  | [] => []
  | e :: es => mostLength e :: mostLengths es

end

/-! ### Building expressions -/

/-- A set of one character is that character. Code points that are no characters do not count. -/
def ofSet (members : CharRanges) : Expr :=
  let members := members.withoutSurrogates
  match members.ranges with
  | #[(a, b)] => if a == b then .literal [Char.ofNat a] else .set members
  | _ => .set members

/-- Repeats an expression. One that takes no characters need not be repeated more than once. -/
def repeated (least : Nat) (most : Option Nat) (greedy : Bool) (inner : Expr) : Expr :=
  let (least, most) :=
    if mostLength inner == some 0 then (min least 1, some (min (most.getD 1) 1)) else (least, most)
  if least == 0 && most == some 0 then .empty
  else if least == 1 && most == some 1 then inner
  else .repetition least most greedy inner

/-- The parts of a sequence without the empty ones and with sequences among them laid open. -/
def flatParts (parts : List Expr) : List Expr :=
  parts.flatMap fun
    | .concat inner => inner
    | .empty => []
    | e => [e]

/-- Joins texts that stand in a row. -/
def joinLiterals : List Expr → List Expr
  | [] => []
  | .literal a :: rest =>
    match joinLiterals rest with
    | .literal b :: rest => .literal (a ++ b) :: rest
    | rest => .literal a :: rest
  | e :: rest => e :: joinLiterals rest

def inSequence (parts : List Expr) : Expr :=
  match joinLiterals (flatParts parts) with
  | [] => .empty
  | [e] => e
  | es => .concat es

def flatBranches (branches : List Expr) : List Expr :=
  branches.flatMap fun
    | .alternation inner => inner
    | e => [e]

def character? : Expr → Option Nat
  | .literal [c] => some c.toNat
  | _ => none

def members? : Expr → Option CharRanges
  | .set members => some members
  | _ => none

/-- The set of the characters that branches of one character each make up. -/
def singleCharacters? (branches : List Expr) : Option CharRanges :=
  (branches.mapM character?).map fun codes => .ofRanges (codes.map fun n => (n, n))

def unionOfSets? (branches : List Expr) : Option CharRanges :=
  (branches.mapM members?).map fun sets => .ofRanges (sets.flatMap CharRanges.toList)

/-- How many parts two sequences have in common at their start. -/
def commonStart : List Expr → List Expr → Nat
  | a :: as, b :: bs => if same a b then commonStart as bs + 1 else 0
  | _, _ => 0

def partsOf? : Expr → Option (List Expr)
  | .concat parts => some parts
  | _ => none

/-- A choice between expressions. What all branches start with is taken out in front. The fuel
bounds how often that is done, which is at most as often as the first branch has parts. -/
def choice : (fuel : Nat) → List Expr → Expr
  | 0, branches => .alternation branches
  | fuel + 1, branches =>
    match flatBranches branches with
    | [] => .set CharRanges.empty
    | [e] => e
    | branches =>
      match (singleCharacters? branches).orElse (fun _ => unionOfSets? branches) with
      | some members => ofSet members
      | none =>
        match branches.mapM partsOf? with
        | some (first :: others) =>
          let common := others.foldl (fun n parts => min n (commonStart first parts)) first.length
          if common == 0 then .alternation branches
          else
            let ends := (first :: others).map (fun parts => inSequence (parts.drop common))
            inSequence (first.take common ++ [choice fuel ends])
        | _ => .alternation branches

def oneOf (branches : List Expr) : Expr :=
  let first := ((flatBranches branches).head?.bind partsOf?).getD []
  choice (first.length + 1) branches

/-! ### Anchors -/

mutual

/-- Whether each match starts at the start of the text for an obvious reason. -/
def startsText : Expr → Bool
  | .look .textStart => true
  | .repetition least _ _ inner => 0 < least && startsText inner
  | .capture inner => startsText inner
  | .concat parts => anyStartsText parts
  | .alternation branches => allStartText branches
  | _ => false

def anyStartsText : List Expr → Bool
  | [] => false
  | e :: es => startsText e || (mostLength e == some 0 && anyStartsText es)

def allStartText : List Expr → Bool
  | [] => true
  | e :: es => startsText e && allStartText es

end

mutual

/-- Whether each match ends at the end of the text for an obvious reason. -/
def endsText : Expr → Bool
  | .look .textEnd => true
  | .repetition least _ _ inner => 0 < least && endsText inner
  | .capture inner => endsText inner
  | .concat parts => anyEndsText parts
  | .alternation branches => allEndText branches
  | _ => false

/-- Only parts that nothing but parts without characters follow count. -/
def anyEndsText : List Expr → Bool
  | [] => false
  | e :: es => anyEndsText es || (endsText e && es.all fun later => mostLength later == some 0)

def allEndText : List Expr → Bool
  | [] => true
  | e :: es => endsText e && allEndText es

end

end Expr
end ComposeHarness.Regex
