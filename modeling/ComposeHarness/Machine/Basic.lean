import ComposeHarness.Host
import ComposeHarness.Machine.Search
import ComposeHarness.Machine.Shell

/-!
# Machines

A small computer held in memory, on which scenarios can be rehearsed without touching anything else.
It has files, variables, a shell with the usual programs, and no network. Starting a program takes a
moment, sleeping takes its time, and everything else takes none. Inside of it all texts are texts of
bytes.
-/
namespace ComposeHarness

structure Machine where
  files : Machine.FileTree
  cwd : Machine.Location
  /-- The variables of the account, in plain texts. -/
  vars : Dict String
  /-- How many random numbers have been drawn. -/
  drawn : Nat := 0

namespace Machine

open Text (Octets.ofText Octets.toText)

/-- A path as the machine writes it. -/
def inside (p : Path) : Path := ⟨Octets.ofText p.text⟩

/-- A path of the machine in plain text. -/
def outside (p : Path) : Path := ⟨Octets.toText p.text⟩

def devices : List (String × Device) :=
  [("null", .null), ("zero", .zero), ("stdin", .descriptor 0), ("stdout", .descriptor 1),
    ("stderr", .descriptor 2)]

/-- The directories that every machine has. -/
def directories : List Location :=
  [["etc"], ["home"], ["mnt"], ["opt"], ["root"], ["run"], ["srv"], ["tmp"], ["usr", "lib"],
    ["usr", "local", "bin"], ["usr", "sbin"], ["usr", "share"], ["var", "tmp"]]

/-- A machine with its programs and nothing else. -/
def bare (cwd : Location) (vars : Dict String) : Machine :=
  let cwd := cwd.map Octets.ofText
  let programs := ["dash", "env"] ++ Programs.table.map (·.1)
  let files : FileTree := { entries := [] }
  let files := devices.foldl (fun t (name, d) => t.plant ["dev", name] (.device d)) files
  let files := directories.foldl (fun t l => t.plant l .directory) files
  let files := programs.foldl (fun t name =>
    t.plant ["usr", "bin", name] (.program name)) files
  let files := files.plant ["usr", "bin", "sh"] (.link ⟨"dash"⟩)
  let files := ["bin", "lib", "sbin"].foldl (fun t name =>
    t.plant [name] (.link ⟨"usr/" ++ name⟩)) files
  ⟨files.plant cwd .directory, cwd, vars, 0⟩

def addFile (m : Machine) (path : Location) (e : Entry) : Machine :=
  let e := match e with
    | .link target => .link (inside target)
    | e => e
  { m with files := m.files.plant (path.map Octets.ofText) e }

/-! ### Starting programs -/

def hasNul (s : String) : Bool := s.toList.contains '\x00'

/-- The directory in which a program is started. -/
def startDirectory (m : Machine) (dir : Option Path) : Except SystemError Location :=
  match dir with
  | none => .ok m.cwd
  | some dir => do
    let place ← m.files.entry m.cwd (inside dir)
    if place.entry = some .directory then .ok place.location else .error .notDirectory

/-- The number of the first process of a program. -/
def firstProcess : Nat := 100

/-- The process that an invocation starts, and what it runs. A file has to say how it is run. -/
def prepare (m : Machine) (now : Duration) (inv : Invocation) :
    Except SystemError (Process × Launch) := do
  let texts := inv.program.text :: inv.arguments ++ inv.env.entries.flatMap (fun e => [e.1, e.2]) ++
    (inv.workingDir.map Path.text).toList
  if texts.any hasNul then .error .nulInside
  let cwd ← m.startDirectory inv.workingDir
  let vars : Variables := .ofList <| (m.vars.override inv.env).entries.map fun (name, value) =>
    (Octets.ofText name, { value := some (Octets.ofText value), exported := true })
  let searchPath := (vars.value? "PATH").getD usualPath
  let name := Octets.ofText inv.program.text
  if name.isEmpty then .error .noEntry
  let program ← findProgram m.files cwd (some searchPath) name
  let launch ← Launch.ofFile m.files cwd name program (inv.arguments.map Octets.ofText)
  let world : World := { files := m.files, lastProcess := firstProcess }
  .ok ({
    world := world.moveTo now, id := firstProcess, shell := firstProcess, cwd, name, vars
    descriptors := [(0, .void true false), (1, .outside .stdout), (2, .outside .stderr)] },
    launch)

/-- How many commands may be nested, and how often loops may run. -/
def patience : Nat := Nat.pow 10 9

/-- Runs an invocation to its end. -/
def spawn (inv : Invocation) : Timed Machine (Except SystemError Completion) := fun now m =>
  match m.prepare now inv with
  | .error e => ⟨.error e, .zero, m⟩
  | .ok (p, launch) =>
    let (w, status) := Schedule.complete p (Shell.runProgram patience launch)
    ⟨.ok ⟨status, Command.readsOf w.writes.reverse⟩, startTime + (w.now - now),
      { m with files := w.files }⟩
where
  startTime : Duration := .ofMillis 1

/-- There is no network, so every request fails, and soon. -/
def request (_url : String) : Timed Machine (Except Failure Response) := fun _ m =>
  ⟨.error (.http "error sending request"), .ofMillis 1, m⟩

/-! ### Files -/

/-- The directory for temporary files; a relative one lies in the current directory. -/
def temporaryDirectory (m : Machine) : Path :=
  (outside m.cwd.path).join ⟨(m.vars.get? "TMPDIR").getD "/tmp"⟩

/-- Six digits. -/
def sixDigits (n : Nat) : String :=
  let digits := toString (n % 1000000)
  String.ofList (List.replicate (6 - digits.length) '0') ++ digits

/-- A path in the directory for temporary files. -/
def temporaryPath (m : Machine) (n : Nat) : Path :=
  m.temporaryDirectory.join ⟨"compose-e2e-" ++ sixDigits n⟩

/-- A path of that kind where nothing is yet. -/
def freshPath (m : Machine) : Option Path :=
  ((List.range (m.files.entries.length + 1)).map m.temporaryPath).find? fun p =>
    match m.files.find m.cwd false (inside p) with
    | .ok place => place.entry.isNone
    | .error _ => true

def makeStaging (m : Machine) : Except PathError Path × Machine :=
  match m.freshPath with
  | none => (.error ⟨.alreadyExists, m.temporaryPath 0⟩, m)
  | some dir =>
    match m.files.makeDirectory m.cwd (inside dir) with
    | .ok files => (.ok dir, { m with files })
    | .error cause => (.error ⟨cause, dir⟩, m)

def link (source target : Path) (m : Machine) : Except SystemError Unit × Machine :=
  match m.files.create m.cwd (inside target) (.link (inside source)) with
  | .ok files => (.ok (), { m with files })
  | .error e => (.error e, m)

def removeTree (dir : Path) (m : Machine) : Except PathError Unit × Machine :=
  match m.files.find m.cwd false (inside dir) with
  | .error cause => (.error ⟨cause, dir⟩, m)
  | .ok place =>
    if place.entry.isSome then (.ok (), { m with files := m.files.prune place.location })
    else (.error ⟨.noEntry, dir⟩, m)

def canonical (p : Path) (m : Machine) : Except SystemError Path :=
  (m.files.entry m.cwd (inside p)).map fun place => outside place.location.path

def accountHome : Path := ⟨"/root"⟩

/-- The home directory: the one that a variable names, or else that of the account. -/
def home (m : Machine) : Path :=
  match m.vars.get? "HOME" with
  | some "" | none => accountHome
  | some dir => ⟨dir⟩

/-- Numbers that differ from draw to draw. -/
def draw (m : Machine) : BitVec 32 × Machine :=
  (BitVec.ofNat 32 (0x9e3779b9 * (m.drawn + 1)), { m with drawn := m.drawn + 1 })

/-- A machine as the outside of a harness. -/
def host : Host Machine where
  spawn := spawn
  request := request
  readText p m := m.files.readText m.cwd (inside p)
  pathExists p m := m.files.holds m.cwd (inside p)
  isFile p m := m.files.isFile m.cwd (inside p)
  search name m :=
    (Machine.search m.files m.cwd (inside m.home) ((m.vars.get? "PATH").map Octets.ofText)
      (Octets.ofText name)).map outside
  canonical := canonical
  makeStaging := makeStaging
  link := link
  removeTree := removeTree
  lookupVariable name m := m.vars.get? name
  accountHome _ := some accountHome
  seed := draw

end Machine
end ComposeHarness
