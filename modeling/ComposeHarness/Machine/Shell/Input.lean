import ComposeHarness.Machine.Shell.Basic
import ComposeHarness.Machine.Shell.Fields

/-!
# Input of scripts

How a script reads a line of its input into variables, and the options out of its arguments.
-/
namespace ComposeHarness.Machine.Shell

open Run (update)
open Text (Bytes)

/-! ### Lines -/

/-- How many bytes a line takes, with its end. Where backslashes quote, a quoted line end is none. -/
def lineLength? (quoting : Bool) : Bytes → Option Nat
  | [] => none
  | 10 :: _ => some 1
  | 92 :: rest =>
    if quoting then
      match rest with
      | _ :: more => (lineLength? quoting more).map (· + 2)
      | [] => none
    else (lineLength? quoting rest).map (· + 1)
  | _ :: rest => (lineLength? quoting rest).map (· + 1)

/-- The stretches of a line. What a backslash quotes is not split, and a quoted line end is left
out. -/
def lineStretches (quoting : Bool) : List Char → List Stretch
  | [] => []
  | '\\' :: rest =>
    if quoting then
      match rest with
      | '\n' :: more => lineStretches quoting more
      | c :: more => ⟨.nowhere, [.char c true]⟩ :: lineStretches quoting more
      | [] => []
    else extended '\\' (lineStretches quoting rest)
  | c :: rest => if c = '\n' then [] else extended c (lineStretches quoting rest)
where
  extended (c : Char) : List Stretch → List Stretch
    | ⟨.atSeparators, pieces⟩ :: rest => ⟨.atSeparators, .char c false :: pieces⟩ :: rest
    | rest => ⟨.atSeparators, [.char c false]⟩ :: rest

/-- Gives each name a text; the names that are left over get empty ones. -/
def assignEach : List String → List String → Run Unit
  | [], _ => pure ()
  | name :: names, values => do
    assign name (values.headD "")
    assignEach names (values.drop 1)

/-- Reads a line into variables, of which the last one takes what is left of it. The status tells
whether the line had an end. -/
def readLine (args : List String) : Run Unit := do
  let (flags, names) ← readOptions "p:r" args
  if names.isEmpty then fail "arg count"
  let quoting := !flags.any fun f => f.1 == 'r'
  let p ← get
  let bytes ← match p.channel? 0 with
    | some c => if Process.canRead c then Run.readUntil c (lineLength? quoting) else pure []
    | none => pure []
  let ended := lineLength? quoting bytes = some bytes.length
  let text := Text.Octets.ofBytes (bytes.filter (· ≠ 0))
  let fields := fieldsOf p.separators (some names.length) (lineStretches quoting text.toList)
  assignEach names (fields.map textOfPieces)
  leave (if ended then 0 else 1)

/-! ### Options of scripts -/

/-- What looking for the next option finds. -/
structure Found where
  /-- What the variable for the option gets. -/
  letter : String
  /-- What becomes of the variable for its value; without a text it is unset. -/
  value : Option (Option String) := none
  complaint : Option String := none
  /-- Whether there are no more options. -/
  done : Bool := false
  /-- The argument that is next, counted from one. -/
  index : Nat
  /-- How far the letters of the argument before that have been read. -/
  place : Option Nat := none

/-- Whether a letter is an option, and whether it takes a value. -/
def option? (c : Char) : List Char → Option Bool
  | [] => none
  | d :: ':' :: rest => if d = c then some true else option? c rest
  | d :: rest => if d = c then some false else option? c rest

/-- The next option among arguments. -/
def findOption (letters : String) (args : List String) (index : Nat) (place : Option Nat) : Found :=
  let silent := letters.startsWith ":"
  let current := (place.bind fun n =>
    if index ≤ 1 then none else args[index - 2]?.map fun arg => (arg.toList.drop n, n)).getD ([], 0)
  let ended (index : Nat) : Found := { letter := "?", done := true, index }
  let from? : Option (List Char × Nat × Nat) :=
    if !current.1.isEmpty then some (current.1, current.2, index)
    else
      match args[index - 1]?.map String.toList with
      | some ('-' :: c :: cs) => some (c :: cs, 1, index + 1)
      | _ => none
  match from? with
  | some ([], _, _) | none => ended index
  | some (c :: cs, n, next) =>
    if current.1.isEmpty && c = '-' && cs.isEmpty then ended next
    else
      let place := some (n + 1)
      match option? c letters.toList with
      | none =>
        if silent then
          { letter := "?", value := some (some (String.singleton c)), index := next, place }
        else
          { letter := "?", value := some none, index := next, place
            complaint := some ("Illegal option -" ++ String.singleton c) }
      | some false =>
        { letter := String.singleton c, value := some (some ""), index := next, place }
      | some true =>
        match cs, args[next - 1]? with
        | [], none =>
          if silent then
            { letter := ":", value := some (some (String.singleton c)), index := next }
          else
            { letter := "?", value := some none, index := next
              complaint := some ("No arg for -" ++ String.singleton c ++ " option") }
        | [], some value =>
          { letter := String.singleton c, value := some (some value), index := next + 1 }
        | _, _ =>
          { letter := String.singleton c, value := some (some (String.ofList cs)), index := next }

/-- Reads the next option of a script, or of the arguments that are given, into a variable. -/
def getopts (args : List String) : Run Unit := do
  match args with
  | letters :: name :: given => do
    let p ← get
    let args := if given.isEmpty then p.arguments else given
    let fits := p.optionIndex ≤ args.length + 1
    let found := findOption letters args (if fits then p.optionIndex else 1)
      (if fits then p.letter else none)
    match found.complaint with
    | some text => update (·.complain text)
    | none => pure ()
    match found.value with
    | some (some value) => assign "OPTARG" value
    | some none => change (·.unassign "OPTARG")
    | none => pure ()
    assign "OPTIND" (toString found.index)
    assign name found.letter
    update fun p => { p with optionIndex := found.index, letter := found.place }
    leave (if found.done then 1 else 0)
  | _ => fail "Usage: getopts optstring var [arg...]"

example : (findOption "ab:" ["-ab", "x"] 1 none).letter = "a" ∧
    (findOption "ab:" ["-ab", "x"] 2 (some 2)).value = some (some "x") := by decide +kernel

end ComposeHarness.Machine.Shell
