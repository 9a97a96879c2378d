/-!
# Wildcards

Patterns for names: a star stands for any text, a question mark for one character, and brackets for
one character out of a set. A backslash quotes the character after it. Patterns and names are texts
of bytes, of which those from 128 on count as negative.
-/
namespace ComposeHarness.Machine

/-- A character of a word, and whether it was quoted. -/
structure Mark where
  char : Char
  quoted : Bool
  deriving Repr, DecidableEq

namespace Wildcard

/-- The pattern that marks stand for. A backslash that is not quoted quotes what follows it. -/
def ofMarks : (afterBackslash : Bool) → List Mark → List Char
  | _, [] => []
  | after, m :: rest =>
    if m.quoted && !after then '\\' :: m.char :: ofMarks false rest
    else m.char :: ofMarks (m.char == '\\' && !m.quoted) rest

/-- The byte of a character as a number with a sign. -/
def byte (c : Char) : Int := if c.toNat < 128 then c.toNat else (c.toNat : Int) - 256

/-- The classes of characters that brackets can name. -/
def classes : List (String × (Nat → Bool)) :=
  let upper (n : Nat) : Bool := 65 ≤ n && n ≤ 90
  let lower (n : Nat) : Bool := 97 ≤ n && n ≤ 122
  let digit (n : Nat) : Bool := 48 ≤ n && n ≤ 57
  let graphic (n : Nat) : Bool := 33 ≤ n && n ≤ 126
  let alnum (n : Nat) : Bool := upper n || lower n || digit n
  [("alnum", alnum), ("cntrl", fun n => n < 32 || n = 127), ("lower", lower),
    ("space", fun n => (9 ≤ n && n ≤ 13) || n = 32), ("alpha", fun n => upper n || lower n),
    ("digit", digit), ("print", fun n => 32 ≤ n && n ≤ 126), ("upper", upper),
    ("blank", fun n => n = 9 || n = 32), ("graph", graphic),
    ("punct", fun n => graphic n && !alnum n),
    ("xdigit", fun n => digit n || (65 ≤ n && n ≤ 70) || (97 ≤ n && n ≤ 102))]

/-- The class whose name follows an opening bracket, and what comes after it. -/
def class? (cs : List Char) : Option ((Nat → Bool) × List Char) :=
  classes.findSome? fun (name, holds) =>
    let written := (":" ++ name ++ ":]").toList
    if written.isPrefixOf cs then some (holds, cs.drop written.length) else none

/-- Whether a character is in the set whose members follow, and what comes after the set. A set that
is not closed is none. -/
def inSet (c : Char) : (fuel : Nat) → (found : Bool) → List Char → Option (Bool × List Char)
  | 0, _, _ => none
  | fuel + 1, found, cs =>
    let next (found : Bool) : List Char → Option (Bool × List Char)
      | ']' :: rest => some (found, rest)
      | rest => inSet c fuel found rest
    let member (low : Char) (cs : List Char) : Option (Bool × List Char) :=
      let range (high : Char) (rest : List Char) : Option (Bool × List Char) :=
        next (found || (byte low ≤ byte c && byte c ≤ byte high)) rest
      match cs with
      | '-' :: ']' :: rest => next (found || c == low) ('-' :: ']' :: rest)
      | '-' :: '\\' :: high :: rest => range high rest
      | '-' :: high :: rest => range high rest
      | ['-'] => none
      | rest => next (found || c == low) rest
    match cs with
    | [] => none
    | '[' :: rest =>
      match class? rest with
      | some (holds, rest) => next (found || holds c.toNat) rest
      | none => member '[' rest
    | '\\' :: low :: rest => member low rest
    | low :: rest => member low rest

/-- Whether a pattern describes a whole text. -/
def acceptsWithin : (fuel : Nat) → List Char → List Char → Bool
  | 0, _, _ => false
  | fuel + 1, pattern, cs =>
    let literal (d : Char) (rest : List Char) : Bool :=
      match cs with
      | c :: cs => c == d && acceptsWithin fuel rest cs
      | [] => false
    match pattern with
    | [] => cs.isEmpty
    | '\\' :: d :: rest => literal d rest
    | '?' :: rest =>
      match cs with
      | _ :: cs => acceptsWithin fuel rest cs
      | [] => false
    | '*' :: rest =>
      acceptsWithin fuel rest cs ||
        match cs with
        | _ :: cs => acceptsWithin fuel pattern cs
        | [] => false
    | '[' :: rest =>
      match cs with
      | [] => false
      | c :: cs =>
        let (negated, members) := match rest with
          | '!' :: members => (true, members)
          | members => (false, members)
        match inSet c (members.length + 1) false members with
        | some (found, after) => found != negated && acceptsWithin fuel after cs
        | none => c == '[' && acceptsWithin fuel rest cs
    | d :: rest => literal d rest

/-- Whether a pattern describes a whole text. Each step leaves less of the pattern or of the text. -/
def accepts (pattern cs : List Char) : Bool :=
  acceptsWithin (pattern.length + cs.length + 1) pattern cs

example : accepts "[!a-c]*[[:digit:]]".toList "xyz7".toList ∧
    !accepts "\\*".toList "x".toList ∧ accepts "[]-]".toList "]".toList := by decide +kernel

/-! ### Pieces of paths -/

/-- Whether a bracket is closed before the next slash. -/
def isClosed : List Char → Bool
  | '\\' :: c :: rest => c != '/' && closes rest
  | c :: rest => c != '/' && closes rest
  | [] => false
where
  closes : List Char → Bool
    | ']' :: _ => true
    | '\\' :: c :: rest => c != '/' && closes rest
    | c :: rest => c != '/' && closes rest
    | [] => false

/-- Whether a pattern stands for more than one name. -/
def isOpen : List Char → Bool
  | '\\' :: _ :: rest => isOpen rest
  | '*' :: _ => true
  | '?' :: _ => true
  | '[' :: '!' :: rest => isClosed rest || isOpen rest
  | '[' :: rest => isClosed rest || isOpen rest
  | _ :: rest => isOpen rest
  | [] => false

/-- The text that a pattern without wildcards stands for. -/
def plain : List Char → List Char
  | '\\' :: c :: rest => c :: plain rest
  | c :: rest => c :: plain rest
  | [] => []

/-- The pattern up to the next slash, and what follows that. -/
def splitSlash : List Char → List Char × Option (List Char)
  | '/' :: rest => ([], some rest)
  | '\\' :: '/' :: rest => ([], some rest)
  | '\\' :: c :: rest =>
    let (piece, more) := splitSlash rest
    ('\\' :: c :: piece, more)
  | c :: rest =>
    let (piece, more) := splitSlash rest
    (c :: piece, more)
  | [] => ([], none)

end Wildcard
end ComposeHarness.Machine
