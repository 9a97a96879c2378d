import ComposeHarness.Machine.Arithmetic
import ComposeHarness.Machine.FileTree

/-!
# Conditions

What the test program makes of its arguments. Whether an argument is an operator depends on those
that follow it, so a reader moves over them one by one and looks ahead.
-/
namespace ComposeHarness.Machine.Condition

/-- The files that conditions speak of. -/
structure Scene where
  files : FileTree
  cwd : Location

/-- What an argument is if it is not an operand. -/
inductive Operator where
  /-- Asks something of one operand. -/
  | unary (name : String)
  /-- Compares two operands. -/
  | binary (name : String)
  | invert | both | either | opening | closing
  deriving Repr, DecidableEq

def operator? (text : String) : Option Operator :=
  if ["-r", "-w", "-x", "-e", "-f", "-d", "-c", "-b", "-p", "-u", "-g", "-k", "-s", "-t", "-z", "-n",
      "-h", "-O", "-G", "-L", "-S"].contains text then some (.unary text)
  else if ["=", "!=", "<", ">", "-eq", "-ne", "-ge", "-gt", "-le", "-lt", "-nt", "-ot",
      "-ef"].contains text then some (.binary text)
  else
    match text with
    | "!" => some .invert
    | "-a" => some .both
    | "-o" => some .either
    | "(" => some .opening
    | ")" => some .closing
    | _ => none

def isBinary (text : String) : Bool :=
  match operator? text with
  | some (.binary _) => true
  | _ => false

/-- What an argument counts as. -/
inductive Role where
  | finish
  | operand
  | operator (op : Operator)
  deriving Repr, DecidableEq

/-- The role of the argument at the front. An operator that nothing follows, or that stands before
one that compares, is an operand. -/
def role : List String → Role
  | [] => .finish
  | text :: rest =>
    match operator? text, rest with
    | some (.unary _), [] => .operand
    | some (.unary op), [_] => .operator (.unary op)
    | some (.unary op), next :: _ => if isBinary next then .operand else .operator (.unary op)
    | some .opening, [] => .operand
    | some op, _ => .operator op
    | none, _ => .operand

/-! ### Operators -/

def number (s : String) : Except String Int :=
  match Arithmetic.number? (some 10) s with
  | some n => .ok n
  | none => .error ("Illegal number: " ++ s)

def entry? (scene : Scene) (name : String) : Option Entry :=
  (scene.files.entry scene.cwd ⟨name⟩).toOption.bind Place.entry

def askOne (scene : Scene) (op arg : String) : Except String Bool :=
  let entry := entry? scene arg
  match op with
  | "-n" => .ok !arg.isEmpty
  | "-z" => .ok arg.isEmpty
  | "-e" | "-r" | "-w" | "-O" | "-G" => .ok entry.isSome
  | "-f" => .ok (scene.files.isFile scene.cwd ⟨arg⟩)
  | "-d" => .ok (entry = some .directory)
  | "-x" => .ok (entry = some .directory || scene.files.isExecutable scene.cwd ⟨arg⟩)
  | "-s" => .ok (match entry with
    | some (.file content _) => !content.isEmpty
    | some (.device _) => false
    | some _ => true
    | none => false)
  | "-h" | "-L" => .ok (match scene.files.find scene.cwd false ⟨arg⟩ with
    | .ok ⟨_, some (.link _)⟩ => true
    | _ => false)
  | "-c" => .ok (match entry with
    | some (.device _) => true
    | _ => false)
  | "-t" => (number arg).map fun _ => false
  | _ => .ok false

def compareTwo (scene : Scene) (op a b : String) : Except String Bool :=
  let numbers (f : Int → Int → Bool) : Except String Bool := do .ok (f (← number a) (← number b))
  let places (f : Location → Location → Bool) : Except String Bool :=
    match scene.files.entry scene.cwd ⟨a⟩, scene.files.entry scene.cwd ⟨b⟩ with
    | .ok x, .ok y => .ok (f x.location y.location)
    | _, _ => .ok false
  let changed (l : Location) : Nat := (scene.files.changed l).nanos
  match op with
  | "=" => .ok (a == b)
  | "!=" => .ok (a != b)
  | "<" => .ok (a < b)
  | ">" => .ok (b < a)
  | "-eq" => numbers (· == ·)
  | "-ne" => numbers (· != ·)
  | "-lt" => numbers (· < ·)
  | "-le" => numbers (· ≤ ·)
  | "-gt" => numbers (· > ·)
  | "-ge" => numbers (· ≥ ·)
  | "-nt" => places fun x y => changed y < changed x
  | "-ot" => places fun x y => changed x < changed y
  | _ => places (· == ·)

/-! ### Conditions -/

/-- Reads arguments. The one at the front is the last that has been dealt with, or that is to be. -/
abbrev Reading := StateT (List String) (Except String)

def step : Reading Unit := modify (List.drop 1)

mutual

def disjunction (scene : Scene) : (fuel : Nat) → Role → Reading Bool
  | 0, _ => throw "too many arguments"
  | fuel + 1, r => do
    let a ← conjunction scene fuel r
    let rest := (← get).drop 1
    if role rest = .operator .either then
      set (rest.drop 1)
      let b ← disjunction scene fuel (role (rest.drop 1))
      return a || b
    else return a

def conjunction (scene : Scene) : (fuel : Nat) → Role → Reading Bool
  | 0, _ => throw "too many arguments"
  | fuel + 1, r => do
    let a ← negation scene fuel r
    let rest := (← get).drop 1
    if role rest = .operator .both then
      set (rest.drop 1)
      let b ← conjunction scene fuel (role (rest.drop 1))
      return a && b
    else return a

def negation (scene : Scene) : (fuel : Nat) → Role → Reading Bool
  | 0, _ => throw "too many arguments"
  | fuel + 1, r => do
    if r = .operator .invert then
      let next := role ((← get).drop 1)
      if next ≠ .finish then step
      return !(← negation scene fuel next)
    else primary scene fuel r

def primary (scene : Scene) : (fuel : Nat) → Role → Reading Bool
  | 0, _ => throw "too many arguments"
  | fuel + 1, r => do
    match r with
    | .finish => return false
    | .operator .opening =>
      step
      let next := role (← get)
      if next = .operator .closing then return false
      let b ← disjunction scene fuel next
      step
      if role (← get) ≠ .operator .closing then throw "closing paren expected"
      return b
    | .operator (.unary op) =>
      step
      match ← get with
      | arg :: _ => askOne scene op arg
      | [] => throw (op ++ ": argument expected")
    | _ =>
      match ← get with
      | a :: op :: rest =>
        if role (op :: rest) = .operator (.binary op) then
          match rest with
          | b :: more =>
            set (b :: more)
            compareTwo scene op a b
          | [] => throw (op ++ ": argument expected")
        else return !a.isEmpty
      | a :: _ => return !a.isEmpty
      | [] => return false

end

/-- The truth of a condition from its first role on. Nothing may be left over after it. -/
def holdsFrom (scene : Scene) (r : Role) (args : List String) : Except String Bool := do
  let (b, rest) ← (disjunction scene (4 * args.length + 8) r).run args
  match rest with
  | last :: _ :: _ =>
    .error (if last.isEmpty then "unexpected operator" else last ++ ": unexpected operator")
  | _ => .ok b

/-- The truth of a whole condition. Of three arguments the middle one comes first, if it compares.
Parentheses around all of few arguments count for nothing, and signs of negation in front of them
count only once. -/
def holds (scene : Scene) (args : List String) : Except String Bool :=
  let plain (args : List String) : Except String Bool := holdsFrom scene (role args) args
  let ofThree (negated : Bool) (a op b : String) : Except String Bool :=
    if isBinary op then (holdsFrom scene .operand [a, op, b]).map (· != negated)
    else if a = "(" && b = ")" then (plain [op]).map (· != negated)
    else if a = "!" then (plain [op, b]).map not
    else (plain [a, op, b]).map (· != negated)
  match args with
  | [] => .ok false
  | [a, op, b] => ofThree false a op b
  | [a, b, c, d] =>
    if a = "(" && d = ")" then plain [b, c]
    else if a = "!" then ofThree true b c d
    else plain args
  | _ => plain args

end ComposeHarness.Machine.Condition
