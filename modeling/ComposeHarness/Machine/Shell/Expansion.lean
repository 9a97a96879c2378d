import ComposeHarness.Machine.Script.Basic
import ComposeHarness.Machine.Shell.Basic
import ComposeHarness.Machine.Shell.Fields
import ComposeHarness.Machine.Shell.Tilde

/-!
# Expansion of words

The parts of a word become stretches, which are split into the fields of a command or read as one
text or pattern. How the output of a script in a word comes about is a parameter of all of this.
-/
namespace ComposeHarness.Machine.Shell

open Run (update)

/-- What a word is expanded for. -/
structure Purpose where
  /-- Whether it may become more than one field. -/
  fields : Bool := false
  tildes : Tildes := .nowhere
  /-- Whether it stands for a parameter, so that its own text is split as a value would be. -/
  inner : Bool := false

/-! ### Values of parameters -/

/-- What stands between two arguments in a value that is a single text. -/
def joint (p : Process) : List Piece :=
  match p.vars.value? "IFS" with
  | none => [.char ' ' false]
  | some text => (text.toList.take 1).map fun c => .char c false

def isArguments (name : String) : Bool := name = "@" || name = "*"

/-- All arguments as a value. -/
def argumentPieces (p : Process) (between : List Piece) (quoted : Bool) : List Piece :=
  let between := between.map fun
    | .char c _ => .char c quoted
    | other => other
  List.intercalate between (p.arguments.map (charsOf quoted))

/-- The value of a parameter, if it has one. -/
def valuePieces (p : Process) (use : Purpose) (quoted : Bool) (name : String) :
    Option (List Piece) :=
  if isArguments name then
    let apart := use.fields && (!quoted || name = "@")
    some (argumentPieces p (if apart then [.border] else joint p) quoted)
  else (p.value? name).map (charsOf quoted)

/-- A value as stretches: what is quoted is split only between arguments. -/
def valueStretches (p : Process) (quoted : Bool) (name : String) (pieces : List Piece) :
    List Stretch :=
  [⟨if !quoted then .atSeparators
    else if name = "@" && !p.arguments.isEmpty then .atBorders
    else .nowhere, pieces⟩]

/-- The characters up to the next border. -/
def upToBorder (pieces : List Piece) : List Char :=
  (marksOf (pieces.takeWhile (· != .border))).map Mark.char

/-- A value without what a pattern matches at one end. What it has to match ends at a border. -/
def trimmed (atEnd longest : Bool) (pattern : List Char) (pieces : List Piece) : List Piece :=
  let cuts := (List.range (pieces.length + 1)).filter fun n =>
    Wildcard.accepts pattern (upToBorder (if atEnd then pieces.drop n else pieces.take n))
  match if atEnd == longest then cuts.head? else cuts.getLast? with
  | some n => if atEnd then pieces.take n else pieces.drop n
  | none => pieces

/-- Refuses a parameter without a value. -/
def refuseMissing {α : Type} (name text : String) : Run α := fail (name ++ ": " ++ text)

/-- Arithmetic reads and changes the variables of the shell. -/
def memory : Arithmetic.Memory Process where
  value? p name := p.vars.value? name
  assign name value p := p.assign name value

/-- The value of an arithmetic expression. -/
def calculate (text : String) : Run Int := do
  let (outcome, p) := Arithmetic.evaluate memory text (← get)
  Run.update fun _ => p
  match outcome with
  | .ok n => return n
  | .error (.refused reason) => fail reason
  | .error (.syntaxError what) =>
    fail ("arithmetic expression: " ++ what ++ ": \"" ++ text ++ "\"")
  | .error .overflow => Run.dieOf .arithmetic

/-- The value of a parameter that is used as it is. -/
def value (use : Purpose) (quoted : Bool) (name : String) : Run (List Stretch) := do
  let p ← get
  match valuePieces p use quoted name with
  | some pieces => return valueStretches p quoted name pieces
  | none => do
    if p.has 'u' then refuseMissing name "parameter not set"
    return []

/-! ### Words -/

/-- How deep words may be nested. -/
def nesting : Nat := Nat.pow 10 6

variable (capture : Script → Run String)

mutual

/-- The stretches of one part of a word, of which it may be the first and the last one. -/
def ofPart (use : Purpose) (first final : Bool) : (fuel : Nat) → Part → Run (List Stretch)
  | 0, _ => fail "word too long"
  | fuel + 1, part => do
    match part with
    | .literal true text => return [⟨.nowhere, charsOf true text⟩]
    | .literal false text =>
      let placed := use.tildes.place ((← get).vars.value? "HOME") first final text
      return placed.map fun (isHome, cs) =>
        ⟨if use.inner && !isHome then .atSeparators else .nowhere,
          cs.map fun c => .char c isHome⟩
    | .mark => return [⟨.nowhere, [.mark]⟩]
    | .output quoted body => return stretch quoted (dropLineEnds (← capture body))
    | .arithmetic quoted expression =>
      let text := textOf (← ofParts {} true fuel expression)
      return stretch quoted (toString (← calculate text))
    | .parameter quoted name .value => value use quoted name
    | .parameter quoted name .length =>
      let p ← get
      match valuePieces p {} quoted name with
      | some pieces => return valueStretches p quoted name (charsOf quoted (toString pieces.length))
      | none => do
        if p.has 'u' then refuseMissing name "parameter not set"
        return stretch quoted "0"
    | .parameter quoted name (.trim atEnd longest pattern) =>
      let p ← get
      match valuePieces p use quoted name with
      | some pieces =>
        let pattern := patternOf (← ofParts { tildes := .atStart } true fuel pattern)
        return valueStretches p quoted name (trimmed atEnd longest pattern pieces)
      | none => do
        if p.has 'u' then refuseMissing name "parameter not set"
        return stretch quoted ""
    | .parameter _ _ .unknown => fail "Bad substitution"
    | .parameter quoted name (.whenMissing colon what word) =>
      let isMissing := match valuePieces (← get) use quoted name with
        | none => true
        | some pieces => colon && pieces.isEmpty
      let tildes := if use.tildes = .inValue || use.tildes = .inAssignment then .inValue
        else .atStart
      let replaced := ofParts { use with tildes, inner := true } true fuel word
      match what, isMissing with
      | .useAlternative, true => return []
      | .useAlternative, false => replaced
      | .useDefault, true => replaced
      | .assignDefault, true =>
        let text := textOf (← ofParts { tildes := .atStart } true fuel word)
        assign name text
        value use quoted name
      | .fail, true =>
        let text := textOf (← ofParts { tildes := .atStart } true fuel word)
        refuseMissing name (if !word.isEmpty then text
          else if colon then "parameter not set or null" else "parameter not set")
      | _, false => value use quoted name

/-- The stretches of the parts of a word. -/
def ofParts (use : Purpose) (first : Bool) : (fuel : Nat) → Word → Run (List Stretch)
  | 0, _ => fail "word too long"
  | _, [] => return []
  | fuel + 1, part :: rest => do
    let xs ← ofPart use first rest.isEmpty fuel part
    let ys ← ofParts use false fuel rest
    return xs ++ ys

end

/-- The text of a word. -/
def textOfWord (tildes : Tildes) (word : Word) : Run String := do
  return textOf (← ofParts capture { tildes } true nesting word)

/-- The pattern of a word. -/
def patternOfWord (word : Word) : Run (List Char) := do
  return patternOf (← ofParts capture { tildes := .atStart } true nesting word)

/-- The fields of a word. -/
def fieldsOfWord (word : Word) : Run (List String) := do
  let xs ← ofParts capture { fields := true, tildes := .atStart } true nesting word
  let p ← get
  let fields := fieldsOf p.separators none xs
  return if p.has 'f' then fields.map textOfPieces else fields.flatMap (globbed p.files p.cwd)

/-- The fields of words. -/
def fieldsOfWords : List Word → Run (List String)
  | [] => return []
  | word :: rest => do
    let fields ← fieldsOfWord capture word
    let more ← fieldsOfWords rest
    return fields ++ more

end ComposeHarness.Machine.Shell
