import ComposeHarness.Machine.Programs.Quoted
import ComposeHarness.Machine.Schedule

/-!
# What programs have in common

A program is the computation of a process. Options may stand anywhere among its arguments; what
remains are operands, mostly names of files.
-/
namespace ComposeHarness.Machine

open Text (Bytes)

abbrev Program := List String → Run Unit

namespace Programs

open Run (update)

/-! ### Outcomes -/

def leave (status : Nat) : Run Unit := update (·.withStatus status)

/-- Tells of something that went wrong, which the status will show. -/
def complain (program text : String) (status : Nat := 1) : Run Unit :=
  update fun p => (p.complain (program ++ ": " ++ text)).withStatus status

/-- Ends the program because of its arguments, and says where help is to be had. -/
def refuse {α : Type} (program text : String) (status : Nat := 1) : Run α := do
  complain program text status
  update (·.complain ("Try '" ++ program ++ " --help' for more information."))
  Run.halt

/-- Ends a program where an operand is missing. -/
def missingOperand {α : Type} (program : String) : Run α := refuse program "missing operand"

/-- Writes bytes, and waits until there is room for more. -/
def put (program : String) (bytes : Bytes) : Run Unit := do
  if bytes.isEmpty then return
  if (← get).isWritable 1 then
    update (·.write 1 bytes)
    Run.settle
  else
    complain program "write error: Bad file descriptor"
    Run.halt

def say (program text : String) : Run Unit := put program (Text.Octets.bytes text)

/-! ### Arguments -/

/-- What arguments hold: options, each with its value if it takes one, and operands. -/
structure Arguments where
  options : List (Char × String) := []
  operands : List String := []

namespace Arguments

def has (a : Arguments) (c : Char) : Bool := a.options.any fun x => x.1 == c

/-- The value of the last option with a letter. -/
def value? (a : Arguments) (c : Char) : Option String :=
  (a.options.reverse.find? fun x => x.1 == c).map (·.2)

/-- Reads the letters of one argument. A colon says that the letter before it takes a value, which
may be the next argument. -/
def letters (known : List Char) : List Char → List String →
    Except String (List (Char × String) × List String)
  | [], rest => .ok ([], rest)
  | c :: cs, rest =>
    if c = ':' || !known.contains c then .error ("invalid option -- '" ++ String.singleton c ++ "'")
    else if (known.dropWhile (· != c))[1]? = some ':' then
      match cs, rest with
      | [], value :: rest => .ok ([(c, value)], rest)
      | [], [] => .error ("option requires an argument -- '" ++ String.singleton c ++ "'")
      | _, _ => .ok ([(c, String.ofList cs)], rest)
    else (letters known cs rest).map fun x => ((c, "") :: x.1, x.2)

/-- Reads arguments. Two dashes end the options. -/
def ofList (known : List Char) : (fuel : Nat) → List String → Except String Arguments
  | 0, _ => .ok {}
  | _, [] => .ok {}
  | _, "--" :: rest => .ok { operands := rest }
  | fuel + 1, arg :: rest =>
    match arg.toList with
    | '-' :: '-' :: _ => .error ("unrecognized option '" ++ arg ++ "'")
    | '-' :: c :: cs => do
      let (found, rest) ← letters known (c :: cs) rest
      let more ← ofList known fuel rest
      .ok { more with options := found ++ more.options }
    | _ => do
      let more ← ofList known fuel rest
      .ok { more with operands := arg :: more.operands }

end Arguments

/-- Reads the arguments of a program. -/
def arguments (program known : String) (args : List String) (status : Nat := 1) :
    Run Arguments :=
  match Arguments.ofList known.toList (args.length + 1) args with
  | .ok a => pure a
  | .error text => refuse program text status

/-! ### Inputs -/

/-- Where a name leads: a dash stands for the input. -/
def source (name : String) : Run (Except SystemError Channel) := do
  let p ← get
  let opened := if name = "-" then (match p.channel? 0 with
      | some c => if Process.canRead c then .ok (c, p) else .error .badDescriptor
      | none => .error .badDescriptor)
    else p.openFile ⟨name⟩ .read
  match opened with
  | .error e => return .error e
  | .ok (c, p) =>
    set p
    let isDirectory : Bool := match c with
      | .stream n _ _ => (p.world.streams.lookup n).any fun s => p.files.isDirectory s.location
      | _ => false
    return if isDirectory then .error .isDirectory else .ok c

/-- How a program tells of a file that it cannot read. -/
def unreadable (program name : String) (e : SystemError) : String :=
  (match program with
    | "head" | "tail" =>
      if e = .isDirectory then "error reading " ++ quoted name
      else "cannot open " ++ quoted name ++ " for reading"
    | "sort" => (if e = .isDirectory then "read failed: " else "cannot read: ") ++ named name
    | _ => named name) ++ ": " ++ e.reason

/-- The content of one file. -/
def content (program : String) (name : String) (status : Nat := 1) : Run (Option Bytes) := do
  match ← source name with
  | .ok c => return some (← Run.readAll c)
  | .error e =>
    complain program (unreadable program name e) status
    return none

/-- The input, if no files are named. -/
def orInput (names : List String) : List String := if names.isEmpty then ["-"] else names

/-- The contents of the files named, or the input if there are none. -/
def contents (program : String) (names : List String) (status : Nat := 1) : Run Bytes := do
  let all ← (orInput names).mapM fun name => content program name status
  return (all.map fun bytes => bytes.getD []).flatten

/-- Writes what a change makes of the contents of files. -/
def filter (program : String) (change : Bytes → Bytes) (names : List String) (status : Nat := 1) :
    Run Unit := do
  let bytes ← contents program names status
  put program (change bytes)

/-- Some bytes of a channel; none once it is dry. -/
def someBytes (c : Channel) : Run Bytes :=
  Run.readUntil c fun bytes => if bytes.isEmpty then none else some bytes.length

/-- How often a program goes on with its input at most. -/
def persistence : Nat := Nat.pow 10 7

/-- Hands the bytes of a channel on as they come. -/
def forChunks (c : Channel) (use : Bytes → Run Unit) : (fuel : Nat) → Run Unit
  | 0 => pure ()
  | fuel + 1 => do
    let bytes ← someBytes c
    if bytes.isEmpty then return
    use bytes
    forChunks c use fuel

/-! ### Lines -/

def newline : UInt8 := 10

/-- The lines of a content, each without its end. -/
def lines (bytes : Bytes) : List Bytes :=
  let pieces := bytes.foldr (fun b (acc : List Bytes) =>
    if b = newline then [] :: acc
    else
      match acc with
      | first :: rest => (b :: first) :: rest
      | [] => [[b]]) [[]]
  match pieces.reverse with
  | [] :: rest => rest.reverse
  | _ => pieces

def unlines (ls : List Bytes) : Bytes := ls.flatMap (· ++ [newline])

def textLines (bytes : Bytes) : List String := (lines bytes).map Text.Octets.ofBytes

def ofTextLines (ls : List String) : Bytes := unlines (ls.map Text.Octets.bytes)

/-- A number with blanks before it. -/
def padded (width n : Nat) : String :=
  let digits := toString n
  String.ofList (List.replicate (width - digits.length) ' ') ++ digits

end Programs
end ComposeHarness.Machine
