import ComposeHarness.Machine.Process

/-!
# Starting files

A file that is started is either a program of the machine or a text. A text may name in its first line
the interpreter that is to be started in its place.
-/
namespace ComposeHarness.Machine

open Text (Bytes)

/-- What runs in place of a file. -/
structure Launch where
  /-- The program of the machine. -/
  program : String
  /-- The name under which it runs. -/
  name : String
  arguments : List String
  deriving Repr, DecidableEq

namespace Launch

/-- How much of its first line counts. -/
def lineLimit : Nat := 255

/-- The interpreter that the first line of a text names, and the argument after it. -/
def interpreter? (content : Bytes) : Option (String × List String) :=
  match content with
  | 35 :: 33 :: rest =>
    let isBlank (c : Char) : Bool := c == ' ' || c == '\t'
    let line := (Text.Octets.ofBytes ((rest.take lineLimit).takeWhile (· != 10))).toList
    let line := ((line.dropWhile isBlank).reverse.dropWhile isBlank).reverse
    let program := line.takeWhile fun c => !isBlank c
    let argument := (line.drop program.length).dropWhile isBlank
    if program.isEmpty then none
    else
      some (String.ofList program, if argument.isEmpty then [] else [String.ofList argument])
  | _ => none

/-- How many interpreters may stand in each other's place. -/
def interpreterLimit : Nat := 5

def within (t : FileTree) (cwd : Location) (arguments : List String) (name : String) :
    (fuel : Nat) → Path → Except SystemError Launch
  | 0, _ => .error .tooManyLinks
  | fuel + 1, path => do
    match (← t.entry cwd path).entry with
    | some (.program program) => .ok { program, name, arguments }
    | some (.file content executable) =>
      if !executable then .error .denied
      else
        match interpreter? content with
        | some (interpreter, argument) =>
          within t cwd (argument ++ path.text :: arguments) interpreter fuel ⟨interpreter⟩
        | none => .error .noExec
    | some _ => .error .denied
    | none => .error .noEntry

/-- What runs when a file is started under a name. -/
def ofFile (t : FileTree) (cwd : Location) (name : String) (path : Path)
    (arguments : List String) : Except SystemError Launch :=
  within t cwd arguments name interpreterLimit path

end Launch
end ComposeHarness.Machine
