import ComposeHarness.Text.Digits

/-!
# Arithmetic of scripts

Integers of 64 bits with the usual operators. A name stands for the number in its variable, and
assignments change it. What cannot matter for the value is read but not calculated.
-/
namespace ComposeHarness.Machine.Arithmetic

/-- Where the variables of an expression are. -/
structure Memory (σ : Type) where
  value? : σ → String → Option String
  /-- Gives a variable a value, unless that is refused for a reason. -/
  assign : String → String → σ → Except String σ

/-- What is wrong with an expression. -/
inductive Problem where
  /-- Something that is told without the expression. -/
  | refused (text : String)
  | syntaxError (what : String)
  /-- A quotient that is too great. -/
  | overflow
  deriving Repr, DecidableEq

/-! ### Numbers -/

def wrap (n : Int) : Int := n.bmod (Nat.pow 2 64)

/-- The nearest number that can be held. -/
def saturate (n : Int) : Int := max (-Int.pow 2 63) (min n (Int.pow 2 63 - 1))

def truth (b : Bool) : Int := if b then 1 else 0

/-- The digits at the front in the base that they tell: sixteen after 0x, eight after another zero. -/
def literal (cs : List Char) : Nat × List Char :=
  let inBase (base : Nat) (cs : List Char) : Nat × List Char :=
    (Text.numeral base (cs.takeWhile (Text.isDigitOf base)), cs.dropWhile (Text.isDigitOf base))
  match cs with
  | '0' :: x :: d :: rest =>
    if (x == 'x' || x == 'X') && Text.isDigitOf 16 d then inBase 16 (d :: rest) else inBase 8 cs
  | '0' :: _ => inBase 8 cs
  | _ => inBase 10 cs

def isSpace (c : Char) : Bool := c == ' ' || (9 ≤ c.toNat && c.toNat ≤ 13)

/-- The number that a text holds in a base, with blanks around it; without a base, the digits tell it
and there may be none of them. -/
def number? (base : Option Nat) (text : String) : Option Int :=
  let (negative, digits) := Text.splitSign (text.toList.dropWhile isSpace)
  let (n, rest) := match base with
    | some b => (Text.numeral b (digits.takeWhile (Text.isDigitOf b)),
        digits.dropWhile (Text.isDigitOf b))
    | none => literal digits
  let v : Int := if negative then -n else n
  if digits.length = rest.length then
    if base.isNone && text.toList.all isSpace then some 0 else none
  else if !(rest.all isSpace) || saturate v != v then none
  else some v

/-! ### Tokens -/

/-- An operator between two operands. -/
inductive Operator where
  | times | over | modulo | plus | minus | shiftLeft | shiftRight | less | atMost | greater | atLeast
  | equal | unequal | and | xor | or
  deriving Repr, DecidableEq

namespace Operator

/-- How weakly an operator binds. -/
def weakness : Operator → Nat
  | .times | .over | .modulo => 0
  | .plus | .minus => 1
  | .shiftLeft | .shiftRight => 2
  | .less | .atMost | .greater | .atLeast => 3
  | .equal | .unequal => 4
  | .and => 5
  | .xor => 6
  | .or => 7

def weakest : Nat := 8

def bits (f : Nat → Nat → Nat) (a b : Int) : Int :=
  wrap (f (a % Int.pow 2 64).toNat (b % Int.pow 2 64).toNat)

/-- The value of an operator for two operands. -/
def apply (op : Operator) (a b : Int) : Except Problem Int :=
  let divide (f : Int → Int → Int) : Except Problem Int :=
    if b = 0 then .error (.syntaxError "division by zero")
    else if a = -Int.pow 2 63 && b = -1 then .error .overflow
    else .ok (f a b)
  match op with
  | .times => .ok (wrap (a * b))
  | .over => divide Int.tdiv
  | .modulo => divide Int.tmod
  | .plus => .ok (wrap (a + b))
  | .minus => .ok (wrap (a - b))
  | .shiftLeft => .ok (wrap (a * Int.pow 2 (b % 64).toNat))
  | .shiftRight => .ok (a / Int.pow 2 (b % 64).toNat)
  | .less => .ok (truth (a < b))
  | .atMost => .ok (truth (a ≤ b))
  | .greater => .ok (truth (b < a))
  | .atLeast => .ok (truth (b ≤ a))
  | .equal => .ok (truth (a == b))
  | .unequal => .ok (truth (a != b))
  | .and => .ok (bits (· &&& ·) a b)
  | .xor => .ok (bits (· ^^^ ·) a b)
  | .or => .ok (bits (· ||| ·) a b)

end Operator

inductive Token where
  | number (n : Int)
  | name (text : String)
  | operator (op : Operator)
  /-- Assigns a value, or what an operator makes of the old and the new one. -/
  | assign (op : Option Operator)
  | both | either | invert | complement | opening | closing | question | colon
  /-- A character without a meaning. -/
  | unknown
  | finish
  deriving Repr, DecidableEq

def isNameStart (c : Char) : Bool := c.isAlpha || c == '_'

def isNamePart (c : Char) : Bool := c.isAlphanum || c == '_'

/-- An operator that an assignment may be joined to. -/
def assigning (op : Operator) : List Char → Token × List Char
  | '=' :: rest => (.assign (some op), rest)
  | rest => (.operator op, rest)

/-- The token at the front. -/
def tokenAt : List Char → Token × List Char
  | [] => (.finish, [])
  | '=' :: '=' :: rest => (.operator .equal, rest)
  | '=' :: rest => (.assign none, rest)
  | '>' :: '=' :: rest => (.operator .atLeast, rest)
  | '>' :: '>' :: rest => assigning .shiftRight rest
  | '>' :: rest => (.operator .greater, rest)
  | '<' :: '=' :: rest => (.operator .atMost, rest)
  | '<' :: '<' :: rest => assigning .shiftLeft rest
  | '<' :: rest => (.operator .less, rest)
  | '|' :: '|' :: rest => (.either, rest)
  | '|' :: rest => assigning .or rest
  | '&' :: '&' :: rest => (.both, rest)
  | '&' :: rest => assigning .and rest
  | '!' :: '=' :: rest => (.operator .unequal, rest)
  | '!' :: rest => (.invert, rest)
  | '(' :: rest => (.opening, rest)
  | ')' :: rest => (.closing, rest)
  | '*' :: rest => assigning .times rest
  | '/' :: rest => assigning .over rest
  | '%' :: rest => assigning .modulo rest
  | '+' :: rest => assigning .plus rest
  | '-' :: rest => assigning .minus rest
  | '^' :: rest => assigning .xor rest
  | '~' :: rest => (.complement, rest)
  | '?' :: rest => (.question, rest)
  | ':' :: rest => (.colon, rest)
  | c :: rest =>
    if c.isDigit then
      let (n, rest) := literal (c :: rest)
      (.number (saturate n), rest)
    else if isNameStart c then
      (.name (String.ofList ((c :: rest).takeWhile isNamePart)), (c :: rest).dropWhile isNamePart)
    else (.unknown, [])

/-- The tokens of an expression. -/
def tokens : (fuel : Nat) → List Char → List Token
  | 0, _ => []
  | fuel + 1, cs =>
    match cs.dropWhile fun c => c == ' ' || c == '\t' || c == '\n' with
    | [] => []
    | cs =>
      let (t, rest) := tokenAt cs
      t :: tokens fuel rest

/-! ### Calculating -/

/-- What is left to be read, and the variables. -/
structure Scan (σ : Type) where
  rest : List Token
  memory : σ

/-- A calculation. What it has assigned stays if it fails. -/
abbrev Calculation (σ : Type) := ExceptT Problem (StateM (Scan σ))

variable {σ : Type}

def fail {α : Type} (what : String) : Calculation σ α := throw (.syntaxError what)

def peek : Calculation σ Token := do return (← get).rest.head?.getD .finish

def take : Calculation σ Token := do
  let t ← peek
  modify fun s => { s with rest := s.rest.drop 1 }
  return t

def valueOf (m : Memory σ) (name : String) : Calculation σ Int := do
  let text := (m.value? (← get).memory name).getD ""
  match number? none text with
  | some n => return n
  | none => throw (.refused ("Illegal number: " ++ text))

def setValue (m : Memory σ) (name : String) (n : Int) : Calculation σ Int := do
  let s ← get
  match m.assign name (toString n) s.memory with
  | .ok memory =>
    set { s with memory }
    return n
  | .error text => throw (.refused text)

def applied (op : Operator) (a b : Int) : Calculation σ Int :=
  match op.apply a b with
  | .ok n => return n
  | .error e => throw e

mutual

/-- An assignment, or a choice between two values. Nothing is done unless the value is `wanted`. -/
def assignment (m : Memory σ) (wanted : Bool) : (fuel : Nat) → Calculation σ Int
  | 0 => fail "expression too long"
  | fuel + 1 => do
    match (← get).rest with
    | .name name :: .assign op :: rest =>
      modify fun s => { s with rest }
      let n ← assignment m wanted fuel
      if !wanted then return n
      match op with
      | none => setValue m name n
      | some op => setValue m name (← applied op (← valueOf m name) n)
    | _ => choice m wanted fuel

def choice (m : Memory σ) (wanted : Bool) : (fuel : Nat) → Calculation σ Int
  | 0 => fail "expression too long"
  | fuel + 1 => do
    let a ← disjunction m wanted fuel
    if (← peek) ≠ .question then return a
    let _ ← take
    let b ← assignment m (wanted && a != 0) fuel
    if (← take) ≠ .colon then fail "expecting ':'"
    let c ← choice m (wanted && a == 0) fuel
    return if a != 0 then b else c

def disjunction (m : Memory σ) (wanted : Bool) : (fuel : Nat) → Calculation σ Int
  | 0 => fail "expression too long"
  | fuel + 1 => do
    let a ← conjunction m wanted fuel
    if (← peek) ≠ .either then return a
    let _ ← take
    let b ← disjunction m (wanted && a == 0) fuel
    return truth (a != 0 || b != 0)

def conjunction (m : Memory σ) (wanted : Bool) : (fuel : Nat) → Calculation σ Int
  | 0 => fail "expression too long"
  | fuel + 1 => do
    let a ← operand m wanted fuel
    let a ← match ← peek with
      | .operator op => do
        let _ ← take
        joined m wanted a op Operator.weakest fuel
      | _ => pure a
    if (← peek) ≠ .both then return a
    let _ ← take
    let b ← conjunction m (wanted && a != 0) fuel
    return truth (a != 0 && b != 0)

/-- What operators stronger than a limit make of an operand and those after it. The first operator
has been read. -/
def joined (m : Memory σ) (wanted : Bool) (a : Int) (op : Operator) (limit : Nat) :
    (fuel : Nat) → Calculation σ Int
  | 0 => fail "expression too long"
  | fuel + 1 => do
    let b ← operand m wanted fuel
    let b ← match ← peek with
      | .operator next =>
        if next.weakness < op.weakness then do
          let _ ← take
          joined m wanted b next op.weakness fuel
        else pure b
      | _ => pure b
    let a ← if wanted then applied op a b else pure b
    match ← peek with
    | .operator next =>
      if next.weakness < limit then
        let _ ← take
        joined m wanted a next limit fuel
      else return a
    | _ => return a

def operand (m : Memory σ) (wanted : Bool) : (fuel : Nat) → Calculation σ Int
  | 0 => fail "expression too long"
  | fuel + 1 => do
    match ← take with
    | .opening =>
      let n ← assignment m wanted fuel
      if (← take) ≠ .closing then fail "expecting ')'"
      return n
    | .number n => return n
    | .name name => if wanted then valueOf m name else return 0
    | .operator .plus => operand m wanted fuel
    | .operator .minus => return wrap (-(← operand m wanted fuel))
    | .invert => return truth ((← operand m wanted fuel) == 0)
    | .complement => return -(← operand m wanted fuel) - 1
    | _ => fail "expecting primary"

end

/-- The value of a whole expression, and the memory after it. -/
def evaluate (m : Memory σ) (text : String) (memory : σ) : Except Problem Int × σ :=
  let cs := text.toList
  let whole : Calculation σ Int := do
    let n ← assignment m true (30 * (cs.length + 2))
    if (← peek) ≠ .finish then fail "expecting EOF"
    return n
  let (outcome, s) := whole.run.run { rest := tokens (cs.length + 1) cs, memory }
  (outcome, s.memory)

end ComposeHarness.Machine.Arithmetic
