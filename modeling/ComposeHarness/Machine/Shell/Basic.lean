import ComposeHarness.Machine.Schedule

/-!
# What the commands of a shell have in common

A command of the shell's own reads options from its arguments, changes the process of the shell, and
leaves a status in it. An error in what it is given ends it, and with it the script if the command is
a special one.
-/
namespace ComposeHarness.Machine.Shell

open Run (update settle)

/-! ### Statuses and complaints -/

/-- Leaves a status. -/
def leave (n : Nat) : Run Unit := update (·.withStatus n)

/-- Tells of something, and goes on. -/
def warn (text : String) : Run Unit := update (·.complainHere text)

/-- Ends the command that runs because of an error. -/
def fail {α : Type} (text : String) : Run α := do
  warn text
  leave 2
  throw .failure

/-- Makes a change that may be an error. -/
def change (f : Process → Except String Process) : Run Unit := do
  match f (← get) with
  | .ok p => set p
  | .error text => fail text

def assign (name value : String) : Run Unit := change (·.assign name value)

/-- The number that an argument counts. -/
def count (text : String) : Run Nat :=
  match Process.count? text with
  | some n => pure n
  | none => fail ("Illegal number: " ++ text)

/-- Writes a text, and notices if nobody can read it. -/
def say (text : String) : Run Unit := do
  if (← get).isWritable 1 || text.isEmpty then
    update (·.say text)
    settle
  else update fun p => { p with unsaid := true }

/-- Splits an argument at its first equals sign. -/
def definition (arg : String) : String × Option String :=
  let name := arg.toList.takeWhile (· != '=')
  match arg.toList.dropWhile (· != '=') with
  | _ :: value => (String.ofList name, some (String.ofList value))
  | [] => (arg, none)

/-! ### Options -/

/-- The options of a command, each with its value, and what follows them. `left` are the letters of
an argument that are still to be read. A colon in the list of letters says that the letter before it takes a value. -/
def options (letters : List Char) : (fuel : Nat) → (left : List Char) → List String →
    Except String (List (Char × String) × List String)
  | 0, _, args => .ok ([], args)
  | fuel + 1, c :: left, args =>
    if c == ':' || !letters.contains c then .error ("Illegal option -" ++ String.singleton c)
    else if (letters.dropWhile (· != c))[1]? = some ':' then
      match left, args with
      | [], value :: rest => (options letters fuel [] rest).map fun x => ((c, value) :: x.1, x.2)
      | [], [] => .error ("No arg for -" ++ String.singleton c ++ " option")
      | _, _ =>
        (options letters fuel [] args).map fun x => ((c, String.ofList left) :: x.1, x.2)
    else (options letters fuel left args).map fun x => ((c, "") :: x.1, x.2)
  | _, [], "--" :: rest => .ok ([], rest)
  | fuel + 1, [], arg :: rest =>
    match arg.toList with
    | '-' :: c :: cs => options letters fuel (c :: cs) rest
    | _ => .ok ([], arg :: rest)
  | _, [], [] => .ok ([], [])

/-- Reads the options of a command. -/
def readOptions (letters : String) (args : List String) :
    Run (List (Char × String) × List String) :=
  match options letters.toList (args.foldr (fun arg n => arg.length + 1 + n) 1) [] args with
  | .ok found => pure found
  | .error text => fail text

/-- Reads the first option of a command, of those that take no value. -/
def firstOption (letters : String) : List String → Run (Option Char × List String)
  | [] => pure (none, [])
  | "--" :: rest => pure (none, rest)
  | arg :: rest =>
    match arg.toList with
    | '-' :: c :: _ =>
      if letters.toList.contains c then pure (some c, rest)
      else fail ("Illegal option -" ++ String.singleton c)
    | _ => pure (none, arg :: rest)

/-! ### Quoting -/

/-- The text in apostrophes. An apostrophe itself stands in quotation marks. -/
def quoteFrom : (fuel : Nat) → List Char → String
  | 0, _ => ""
  | fuel + 1, cs =>
    let plain := cs.takeWhile (· != '\'')
    let rest := cs.dropWhile (· != '\'')
    let quoted := "'" ++ String.ofList plain ++ "'"
    if rest.isEmpty then quoted
    else
      let marks := rest.takeWhile (· == '\'')
      let after := rest.dropWhile (· == '\'')
      quoted ++ "\"" ++ String.ofList marks ++ "\"" ++
        if after.isEmpty then "" else quoteFrom fuel after

/-- A text as a script would have to write it. -/
def quote (s : String) : String := quoteFrom (s.length + 1) s.toList

end ComposeHarness.Machine.Shell
