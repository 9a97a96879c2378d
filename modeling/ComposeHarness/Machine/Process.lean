import ComposeHarness.Machine.Arithmetic
import ComposeHarness.Machine.Script.Basic
import ComposeHarness.Machine.Variables
import ComposeHarness.Machine.World

/-!
# Processes

What a running process has for itself: its variables, its place in the file tree, where its
descriptors lead, and what a shell keeps for its scripts. All its texts are texts of bytes.
-/
namespace ComposeHarness.Machine

open Text (Bytes)

/-- A command in the background: its processes, each with how it has ended once the shell knows of
it. -/
structure Job where
  /-- The number under which scripts know it. -/
  number : Nat
  processes : List (Nat × Option ExitStatus)
  /-- Whether scripts have been told how it has ended. -/
  told : Bool := false
  deriving Repr, DecidableEq

namespace Job

/-- How a job has ended: as its last process has, once all of them have. -/
def ending (j : Job) : Option ExitStatus :=
  if j.processes.all fun x => x.2.isSome then j.processes.getLast?.bind (·.2) else none

/-- The process by whose number scripts know a job. -/
def process (j : Job) : Nat := (j.processes.getLast?.map (·.1)).getD 0

end Job

/-- What a function changes only for itself. -/
inductive Saved where
  | binding (name : String) (v : Option Variable)
  | options (letters : List Char)
  deriving Repr, DecidableEq

structure Process where
  world : World
  id : Nat
  /-- The process that started this one. -/
  parent : Nat := 1
  /-- The process that scripts take for their own. -/
  shell : Nat
  cwd : Location
  /-- The current directory as the way led there. -/
  directory : String := ""
  name : String
  arguments : List String := []
  /-- The argument that is next to be read as options. -/
  optionIndex : Nat := 1
  /-- How far the letters of the one before it have been read. -/
  letter : Option Nat := none
  vars : Variables := .empty
  descriptors : Descriptors := []
  /-- Descriptors that come back once a redirection is over. -/
  kept : List Descriptors := []
  status : Nat := 0
  /-- The line of the command that runs. -/
  line : Nat := 1
  /-- The line up to which the script has been read. -/
  reached : Nat := 1
  /-- The command of the shell that runs, for its complaints. -/
  command : Option String := none
  functions : List (String × Command) := []
  aliases : Dict String := .empty
  /-- How many loops the command that runs is in. -/
  loops : Nat := 0
  /-- How many functions it is in. -/
  depth : Nat := 0
  jobs : List Job := []
  /-- The last process that was sent to the background. -/
  launched : Option Nat := none
  /-- What to do on signals, by their numbers; zero stands for the end of the shell. -/
  traps : List (Nat × String) := []
  /-- Signals that are still to be answered. -/
  pending : List Signal := []
  /-- Signals that have no effect. -/
  ignored : List Signal := []
  /-- The status before the trap that runs. -/
  statusBefore : Option Nat := none
  /-- What to restore when the function that runs ends. -/
  locals : Option (List Saved) := none
  options : List Char := []
  /-- The status of the last command whose output was taken since a command began. -/
  taken : Nat := 0
  /-- The permissions that new files do not get. -/
  mask : Nat := 0o022
  /-- Whether the command that runs had something to say that it could not write. -/
  unsaid : Bool := false
  /-- The programs that have been looked up, and whether the directory has changed since then. -/
  looked : List (String × Bool) := []

namespace Process

def files (p : Process) : FileTree := p.world.files

def withFiles (p : Process) (files : FileTree) : Process := { p with world.files := files }

def withWorld (p : Process) (world : World) : Process := { p with world }

def withStatus (p : Process) (n : Nat) : Process := { p with status := n }

def has (p : Process) (option : Char) : Bool := p.options.contains option

/-! ### Descriptors -/

def channel? (p : Process) (descriptor : Nat) : Option Channel := p.descriptors.lookup descriptor

def connect (p : Process) (descriptor : Nat) (c : Channel) : Process :=
  { p with descriptors := (descriptor, c) :: p.descriptors.filter fun x => x.1 != descriptor }

def disconnect (p : Process) (descriptor : Nat) : Process :=
  { p with descriptors := p.descriptors.filter fun x => x.1 != descriptor }

/-- Every end of a channel that the process holds. -/
def held (p : Process) : List Channel := (p.descriptors :: p.kept).flatMap (List.map (·.2))

def canWrite : Channel → Bool
  | .outside _ => true
  | .stream _ _ writes => writes
  | .pipeInput _ => true
  | .void _ writes => writes
  | _ => false

def canRead : Channel → Bool
  | .stream _ reads _ => reads
  | .pipeOutput _ => true
  | .void reads _ => reads
  | .zeros => true
  | _ => false

/-- Whether a descriptor can be written. -/
def isWritable (p : Process) (descriptor : Nat) : Bool := (p.channel? descriptor).any canWrite

def write (p : Process) (descriptor : Nat) (bytes : Bytes) : Process :=
  match p.channel? descriptor with
  | some c => if bytes.isEmpty then p else p.withWorld (p.world.write c bytes)
  | none => p

/-- Writes a text to the output. -/
def say (p : Process) (text : String) : Process := p.write 1 (Text.Octets.bytes text)

/-- Writes a line to the error output. -/
def complain (p : Process) (text : String) : Process := p.write 2 (Text.Octets.bytes (text ++ "\n"))

/-- Writes a line that tells where in the script something went wrong. -/
def complainHere (p : Process) (text : String) : Process :=
  p.complain (p.name ++ ": " ++ toString p.line ++ ": " ++
    (match p.command with
      | some command => command ++ ": "
      | none => "") ++ text)

/-! ### Opening files -/

/-- How a file is opened. -/
inductive Mode where
  | read
  /-- Whether a file that is there is refused. -/
  | write (fresh : Bool)
  | append
  | readWrite
  deriving Repr, DecidableEq

/-- Opens a file that is no descriptor, and gives where that leads. -/
def openPlain (p : Process) (path : Path) (mode : Mode) : Except SystemError (Channel × Process) := do
  let place ← p.files.find p.cwd true path
  match place.entry, mode with
  | some (.device .zero), _ => .ok (.zeros, p)
  | some (.device _), .read => .ok (.void true false, p)
  | some (.device _), _ => .ok (.void false true, p)
  | none, .read => .error .noEntry
  | some (.file ..), .write true => .error .alreadyExists
  | some .directory, .write _ => .error .isDirectory
  | some .directory, .append => .error .isDirectory
  | some .directory, .readWrite => .error .isDirectory
  | _, .read => start place.location true false false p
  | _, .write _ => made false false
  | _, .append => made true false
  | _, .readWrite => made true true
where
  start (l : Location) (reads writes appends : Bool) (p : Process) :
      Except SystemError (Channel × Process) :=
    let (n, world) := p.world.addStream { location := l, appends }
    .ok (.stream n reads writes, p.withWorld world)
  made (keep reads : Bool) : Except SystemError (Channel × Process) := do
    let (l, files) ← p.files.openForWriting p.cwd path keep
    start l reads true (keep && !reads) (p.withFiles files)

/-- Opens a file, and gives where that leads. What stands for a descriptor that leads to a file is that
file. -/
def openFile (p : Process) (path : Path) (mode : Mode) : Except SystemError (Channel × Process) := do
  match (← p.files.find p.cwd true path).entry with
  | some (.device (.descriptor n)) =>
    match p.channel? n with
    | some (.stream k _ _) =>
      match p.world.streams.lookup k with
      | some s => p.openPlain s.location.path mode
      | none => .error .noEntry
    | some c => .ok (c, p)
    | none => .error .noEntry
  | _ => p.openPlain path mode

/-! ### Variables -/

/-- The variables that a program started from here gets. -/
def environment (p : Process) : List (String × String) := p.vars.environment

/-- The number that a text holds, if it can count something. -/
def count? (text : String) : Option Nat :=
  (Arithmetic.number? (some 10) text).bind fun n =>
    if 0 ≤ n && n < Int.pow 2 31 then some n.toNat else none

/-- Whether a text can name a variable. -/
def isName (text : String) : Bool :=
  match text.toList with
  | c :: cs => Arithmetic.isNameStart c && cs.all Arithmetic.isNamePart
  | [] => false

/-- Why a value may not be assigned, if it may not. -/
def refusal? (p : Process) (name value : String) : Option String :=
  if !isName name then some (name ++ ": bad variable name")
  else if p.vars.isReadOnly name then some (name ++ ": is read only")
  else if name = "OPTIND" && (count? value).isNone then some ("Illegal number: " ++ value)
  else none

/-- Gives a variable a value, whatever was known of it. -/
def put (p : Process) (name value : String) : Process :=
  let vars := p.vars.alter name fun v =>
    { v with value := some value, exported := v.exported || p.has 'a' }
  if name = "OPTIND" then
    { p with vars, optionIndex := max 1 ((count? value).getD 1), letter := none }
  else if name = "PATH" then { p with vars, looked := [] }
  else { p with vars }

def assign (p : Process) (name value : String) : Except String Process :=
  match p.refusal? name value with
  | some text => .error text
  | none => .ok (p.put name value)

/-- The variables that stay known when they lose their values. -/
def lasting : List String := ["IFS", "MAIL", "MAILPATH", "OPTIND", "PATH", "PS1", "PS2", "PS4"]

def unassign (p : Process) (name : String) : Except String Process :=
  match p.refusal? name "" with
  | some text => .error text
  | none =>
    let valueless (v : Variable) : Variable := { v with value := none }
    .ok { p with
      vars :=
        if lasting.contains name then p.vars.alter name valueless else p.vars.erase name
      looked := if name = "PATH" then [] else p.looked }

def publish (p : Process) (name : String) : Process :=
  { p with vars := p.vars.alter name fun v => { v with exported := true } }

/-- The options that are set, in the order in which they are shown. -/
def optionOrder : List Char := "pubaCEVvxsnmiIfe".toList

/-- The value of a parameter: one of the shell's own, an argument or a variable. -/
def value? (p : Process) (name : String) : Option String :=
  match name with
  | "#" => some (toString p.arguments.length)
  | "?" => some (toString p.status)
  | "$" => some (toString p.shell)
  | "-" => some (String.ofList (optionOrder.filter p.has))
  | "!" => p.launched.map toString
  | _ =>
    match Text.numeral? 10 name.toList with
    | some 0 => some p.name
    | some n => p.arguments[n - 1]?
    | none => p.vars.value? name

/-- The directories in which programs are looked for. -/
def searchPath (p : Process) : Option String := p.vars.value? "PATH"

/-- The characters at which words are split. -/
def separators (p : Process) : List Char := ((p.vars.value? "IFS").getD " \t\n").toList

/-! ### Signals -/

/-- What a process does on a signal. -/
inductive Response where
  | nothing
  | answer
  | ending
  deriving Repr, DecidableEq

def response (p : Process) (s : Signal) : Response :=
  if s = .kill then .ending
  else
    match p.traps.lookup s.number with
    | some action => if action.isEmpty then .nothing else .answer
    | none => if p.ignored.contains s || s.isHarmless then .nothing else .ending

end Process

/-- The process as a program takes it over: what belonged to the shell is gone, and signals are answered
no more. -/
def Process.forProgram (p : Process) : Process :=
  let silenced := (p.traps.filter fun t => t.2.isEmpty).map fun t => Signal.mk t.1
  { p with
    kept := [], traps := [], pending := [], jobs := [], command := none, functions := []
    ignored := silenced ++ p.ignored }

/-- The programs that a search path offers under a name, whether they can be run or not. An empty
directory is the current one. -/
def candidates (path name : String) : List Path :=
  (path.splitOn ":").map fun dir => if dir.isEmpty then ⟨name⟩ else (Path.mk dir).join ⟨name⟩

/-- Where programs are looked for if no variable tells that. -/
def usualPath : String := "/bin:/usr/bin"

/-- Finds a program by its name or path. What is there and cannot be run is an error only if nothing
else is found. Without a search path only paths lead anywhere. -/
def findProgram (t : FileTree) (cwd : Location) (searchPath : Option String) (name : String) :
    Except SystemError Path :=
  if name.toList.contains '/' then
    match t.entry cwd ⟨name⟩ with
    | .error e => .error e
    | .ok _ => if t.isExecutable cwd ⟨name⟩ then .ok ⟨name⟩ else .error .denied
  else
    let all := match searchPath with
      | some path => candidates path name
      | none => []
    match all.find? (t.isExecutable cwd) with
    | some c => .ok c
    | none => .error (if all.any (t.holds cwd) then .denied else .noEntry)

end ComposeHarness.Machine
