/-!
# Regular expressions as they are written

The tree of a pattern: what it is made of, before flags and classes have been given a meaning. The
nesting of groups, repetitions, alternatives, sequences and classes is limited.
-/
namespace ComposeHarness.Regex

inductive Flag where
  | caseInsensitive
  | multiLine
  | dotMatchesLineFeed
  | swapGreed
  | unicode
  | carriageReturn
  | verbose
  deriving Repr, DecidableEq

def Flag.ofChar? : Char → Option Flag
  | 'i' => some .caseInsensitive
  | 'm' => some .multiLine
  | 's' => some .dotMatchesLineFeed
  | 'U' => some .swapGreed
  | 'u' => some .unicode
  | 'R' => some .carriageReturn
  | 'x' => some .verbose
  | _ => none

/-- What a group of flags lists: flags, and the sign from which on they are switched off. -/
inductive FlagItem where
  | negation
  | flag (f : Flag)
  deriving Repr, DecidableEq

/-- What the items say about one flag. The last mention counts. -/
def flagState (f : Flag) (items : List FlagItem) : Option Bool :=
  (items.foldl (fun (acc : Bool × Option Bool) item =>
    match item with
    | .negation => (false, acc.2)
    | .flag g => if g = f then (acc.1, some acc.1) else acc) (true, none)).2

/-- A place between two characters. -/
inductive Anchor where
  | startLine
  | endLine
  | startText
  | endText
  | wordBoundary
  | notWordBoundary
  | wordStart
  | wordEnd
  | wordStartHalf
  | wordEndHalf
  deriving Repr, DecidableEq

/-- A character, and whether it is written as a byte with two hexadecimal digits. -/
structure Literal where
  char : Char
  asByte : Bool := false
  deriving Repr, DecidableEq, Inhabited

inductive PerlClass where
  | digit
  | space
  | word
  deriving Repr, DecidableEq

/-- Which property a class asks for. -/
inductive PropertyQuery where
  | named (name : List Char)
  | valued (name value : List Char)
  deriving Repr, DecidableEq

inductive AsciiClass where
  | alnum
  | alpha
  | ascii
  | blank
  | cntrl
  | digit
  | graph
  | lower
  | print
  | punct
  | space
  | upper
  | word
  | xdigit
  deriving Repr, DecidableEq

def AsciiClass.ofName? (name : String) : Option AsciiClass :=
  [("alnum", alnum), ("alpha", alpha), ("ascii", ascii), ("blank", blank), ("cntrl", cntrl),
    ("digit", digit), ("graph", graph), ("lower", lower), ("print", print), ("punct", punct),
    ("space", space), ("upper", upper), ("word", word), ("xdigit", xdigit)].lookup name

inductive ClassOp where
  | intersection
  | difference
  | symmetricDifference
  deriving Repr, DecidableEq

inductive ClassItem where
  | empty
  | literal (l : Literal)
  | range (first last : Literal)
  | ascii (kind : AsciiClass) (negated : Bool)
  | perl (kind : PerlClass) (negated : Bool)
  | property (query : PropertyQuery) (negated : Bool)
  | bracketed (negated : Bool) (inner : ClassItem)
  | union (items : List ClassItem)
  | op (kind : ClassOp) (left right : ClassItem)
  deriving Repr, Inhabited

inductive Pattern where
  | empty
  | flags (items : List FlagItem)
  | literal (l : Literal)
  | dot
  | anchor (a : Anchor)
  | perl (kind : PerlClass) (negated : Bool)
  | property (query : PropertyQuery) (negated : Bool)
  | bracketed (negated : Bool) (inner : ClassItem)
  | repetition (least : Nat) (most : Option Nat) (greedy : Bool) (inner : Pattern)
  | group (items : List FlagItem) (captures : Bool) (inner : Pattern)
  | alternation (branches : List Pattern)
  | concat (parts : List Pattern)
  deriving Repr, Inhabited

/-- Several parts in a row, without a node around a single one. -/
def Pattern.ofParts : List Pattern → Pattern
  | [] => .empty
  | [p] => p
  | ps => .concat ps

def Pattern.ofBranches : List Pattern → Pattern
  | [] => .empty
  | [p] => p
  | ps => .alternation ps

def ClassItem.ofItems : List ClassItem → ClassItem
  | [] => .empty
  | [i] => i
  | is => .union is

mutual

def ClassItem.depth : ClassItem → Nat
  | .bracketed _ inner => inner.depth + 1
  | .union items => ClassItem.depthList items + 1
  | .op _ left right => max left.depth right.depth + 1
  | _ => 0

def ClassItem.depthList : List ClassItem → Nat
  | [] => 0
  | i :: is => max i.depth (ClassItem.depthList is)

end

mutual

/-- How deeply the nodes that count are nested. -/
def Pattern.depth : Pattern → Nat
  | .bracketed _ inner => inner.depth + 1
  | .repetition _ _ _ inner => inner.depth + 1
  | .group _ _ inner => inner.depth + 1
  | .alternation branches => Pattern.depthList branches + 1
  | .concat parts => Pattern.depthList parts + 1
  | _ => 0

def Pattern.depthList : List Pattern → Nat
  | [] => 0
  | p :: ps => max p.depth (Pattern.depthList ps)

end

def nestLimit : Nat := 250

end ComposeHarness.Regex
