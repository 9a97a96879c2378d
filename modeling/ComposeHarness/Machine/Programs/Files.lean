import ComposeHarness.Machine.Programs.Basic
import ComposeHarness.Text.Digits

/-!
# Programs that change files
-/
namespace ComposeHarness.Machine.Programs

open Text (Bytes)
open Run (update)

/-- Does something with each file named. What goes wrong is told of. -/
def forFiles (program : String) (describe : String → String)
    (act : String → Process → Except SystemError FileTree) (names : List String) : Run Unit :=
  names.forM fun name => do
    let p ← get
    match act name p with
    | .ok files => set (p.withFiles files)
    | .error e => complain program (describe (quoted name) ++ ": " ++ e.reason)

/-! ### Listing -/

def ls : Program := fun args => do
  let a ← arguments "ls" "aA1dCFRlrtsihSp" args 2
  let names := if a.operands.isEmpty then ["."] else a.operands.mergeSort fun x y => x ≤ y
  let isShown (name : String) : Bool :=
    a.has 'a' || a.has 'A' || name.toList.head? != some '.'
  let ordered {α : Type} (xs : List α) : List α := if a.has 'r' then xs.reverse else xs
  let p ← get
  let found := names.map fun name => (name, p.files.entry p.cwd ⟨name⟩)
  for (name, place) in found do
    match place with
    | .error e => complain "ls" ("cannot access " ++ quoted name ++ ": " ++ e.reason) 2
    | .ok _ => pure ()
  let isListed (place : Except SystemError Place) : Bool :=
    match place with
    | .ok ⟨_, some .directory⟩ => !a.has 'd'
    | _ => false
  let plain := ordered (found.filter fun x => x.2.isOk && !isListed x.2)
  let directories := ordered (found.filter fun x => isListed x.2)
  say "ls" (String.join (plain.map fun x => x.1 ++ "\n"))
  for ((name, place), i) in directories.zipIdx do
    match place with
    | .ok place =>
      let own := if a.has 'a' then [".", ".."] else []
      let entries := ordered (own ++ (p.files.children place.location).filter isShown)
      let title := if names.length = 1 then "" else
        (if i = 0 && plain.isEmpty then "" else "\n") ++ name ++ ":\n"
      say "ls" (title ++ String.join (entries.map fun e => e ++ "\n"))
    | .error _ => pure ()

/-! ### Making -/

/-- Makes a directory and all those on the way to it. -/
def makeParents (name : String) (p : Process) : Except SystemError FileTree :=
  let pieces := (Path.mk name).pieces
  (List.range pieces.length).foldlM (fun files i => do
    let part : Path := ⟨String.intercalate "/" (pieces.take (i + 1))⟩
    if part.isEmpty then .ok files
    else
      match files.entry p.cwd part with
      | .ok ⟨_, some .directory⟩ => .ok files
      | .ok _ => .error (if i + 1 = pieces.length then .alreadyExists else .notDirectory)
      | .error _ => files.makeDirectory p.cwd part) p.files

def mkdir : Program := fun args => do
  let a ← arguments "mkdir" "pvm:" args
  if a.operands.isEmpty then missingOperand "mkdir"
  forFiles "mkdir" (fun name => "cannot create directory " ++ name) (fun name p =>
    if a.has 'p' then makeParents name p else p.files.makeDirectory p.cwd ⟨name⟩) a.operands

def touch : Program := fun args => do
  let a ← arguments "touch" "acmd:t:r:" args
  if a.operands.isEmpty then refuse "touch" "missing file operand"
  forFiles "touch" (fun name => "cannot touch " ++ name) (fun name p =>
    match p.files.find p.cwd true ⟨name⟩ with
    | .error e => if a.has 'c' then .ok p.files else .error e
    | .ok place =>
      if place.entry.isSome then .ok (p.files.touch place.location)
      else if a.has 'c' then .ok p.files
      else (p.files.openForWriting p.cwd ⟨name⟩ true).map (·.2)) a.operands

/-! ### Copying and moving -/

/-- Where a file goes that is put at a destination: into it, if that is a directory. -/
def landing (p : Process) (source dest : String) : Path :=
  match p.files.entry p.cwd ⟨dest⟩ with
  | .ok ⟨_, some .directory⟩ => (Path.mk dest).join ⟨((Path.mk source).fileName).getD source⟩
  | _ => ⟨dest⟩

/-- Copies an entry with everything below it. -/
def graft (t : FileTree) (source dest : Location) : FileTree :=
  (t.entries.filter fun x => source.isPrefixOf x.1).foldl
    (fun t x => t.put (dest ++ x.1.drop source.length) x.2) t

/-- Copies one entry to a destination. -/
def copy (deep : Bool) (dest : String) (source : String) (p : Process) :
    Except String FileTree := do
  let place ← (p.files.entry p.cwd ⟨source⟩).mapError fun e =>
    "cannot stat " ++ quoted source ++ ": " ++ e.reason
  let target := landing p source dest
  let goal ← (p.files.find p.cwd true target).mapError fun e =>
    "cannot create regular file " ++ quoted target.text ++ ": " ++ e.reason
  if goal.location = place.location && goal.entry.isSome then
    .error (quoted source ++ " and " ++ quoted target.text ++ " are the same file")
  else
    match place.entry with
    | some .directory =>
      if deep then .ok (graft p.files place.location goal.location)
      else .error ("-r not specified; omitting directory " ++ quoted source)
    | some (.file content executable) =>
      let executable := match goal.entry with
        | some (.file _ e) => e
        | _ => executable
      .ok (p.files.put goal.location (.file content executable))
    | some e => .ok (p.files.put goal.location e)
    | none => .ok p.files

/-- Moves one entry to a destination. -/
def move (dest : String) (source : String) (p : Process) : Except String FileTree := do
  let cannotFind (e : SystemError) : String := "cannot stat " ++ quoted source ++ ": " ++ e.reason
  let place ← (p.files.find p.cwd false ⟨source⟩).mapError cannotFind
  if place.entry.isNone then .error (cannotFind .noEntry)
  else
    let target := landing p source dest
    let goal ← (p.files.find p.cwd false target).mapError fun e =>
      "cannot move " ++ quoted source ++ " to " ++ quoted target.text ++ ": " ++ e.reason
    if goal.location = place.location then
      .error (quoted source ++ " and " ++ quoted target.text ++ " are the same file")
    else
      .ok ((graft (p.files.prune goal.location) place.location goal.location).prune place.location)

/-- Carries entries to the destination that is named last. Several of them need a directory. -/
def carry (program : String) (act : String → String → Process → Except String FileTree)
    (names : List String) : Run Unit := do
  match names.getLast?, names.dropLast with
  | none, _ => refuse program "missing file operand"
  | some only, [] =>
    refuse program ("missing destination file operand after " ++ quoted only)
  | some dest, sources =>
    let p ← get
    match p.files.entry p.cwd ⟨dest⟩, sources.length with
    | .ok ⟨_, some .directory⟩, _ => all dest sources
    | _, 1 => all dest sources
    | other, _ =>
      let cause : SystemError := if other.isOk then .notDirectory else .noEntry
      complain program ("target " ++ quoted dest ++ ": " ++ cause.reason)
where
  all (dest : String) (sources : List String) : Run Unit :=
    sources.forM fun source => do
      let p ← get
      match act dest source p with
      | .ok files => set (p.withFiles files)
      | .error text => complain program text

def cp : Program := fun args => do
  let a ← arguments "cp" "rRafpvinud" args
  carry "cp" (copy (a.has 'r' || a.has 'R' || a.has 'a')) a.operands

def mv : Program := fun args => do
  carry "mv" move (← arguments "mv" "fvinu" args).operands

/-! ### Removing -/

/-- Removes one file, or a directory with everything in it. -/
def removeOne (deep forced : Bool) (name : String) (p : Process) : Except SystemError FileTree :=
  match p.files.find p.cwd false ⟨name⟩ with
  | .error e => if forced then .ok p.files else .error e
  | .ok place =>
    match place.entry with
    | none => if forced then .ok p.files else .error .noEntry
    | some .directory =>
      if deep then .ok (p.files.prune place.location) else .error .isDirectory
    | some _ => .ok (p.files.prune place.location)

def rm : Program := fun args => do
  let a ← arguments "rm" "rRfvid" args
  if a.operands.isEmpty && !a.has 'f' then missingOperand "rm"
  forFiles "rm" (fun name => "cannot remove " ++ name)
    (removeOne (a.has 'r' || a.has 'R') (a.has 'f')) a.operands

def rmdir : Program := fun args => do
  let a ← arguments "rmdir" "pv" args
  if a.operands.isEmpty then missingOperand "rmdir"
  forFiles "rmdir" (fun name => "failed to remove " ++ name) (fun name p => do
    let place ← p.files.entry p.cwd ⟨name⟩
    if place.entry ≠ some .directory then .error .notDirectory
    else if (p.files.children place.location).isEmpty then .ok (p.files.prune place.location)
    else .error .directoryNotEmpty) a.operands

/-! ### Links and permissions -/

def ln : Program := fun args => do
  let a ← arguments "ln" "sfnvr" args
  match a.operands with
  | [] => refuse "ln" "missing file operand"
  | source :: rest =>
    let p ← get
    let goal := landing p source (rest.headD ".")
    let files := if a.has 'f' then
        match p.files.find p.cwd false goal with
        | .ok place => p.files.prune place.location
        | .error _ => p.files
      else p.files
    let kind := if a.has 's' then "symbolic link " else "hard link "
    let cannotCreate (e : SystemError) : String :=
      "failed to create " ++ kind ++ quoted goal.text ++ ": " ++ e.reason
    let made : Except String FileTree :=
      if a.has 's' then (files.create p.cwd goal (.link ⟨source⟩)).mapError cannotCreate
      else
        match p.files.entry p.cwd ⟨source⟩ with
        | .ok ⟨_, some e⟩ => (files.create p.cwd goal e).mapError cannotCreate
        | .ok _ => .ok files
        | .error e => .error ("failed to access " ++ quoted source ++ ": " ++ e.reason)
    match made with
    | .ok files => set (p.withFiles files)
    | .error text => complain "ln" text

/-- Whether a mode makes a file one that can be run, as far as the mode says. -/
def executableMode? (mode : String) : Option Bool :=
  let cs := mode.toList
  if !cs.isEmpty && cs.all (Text.isDigitOf 8) then some (cs.any fun c => c.toNat % 2 = 1)
  else if cs.contains 'x' then some (!cs.contains '-')
  else none

def chmod : Program := fun args => do
  match args.filter fun a => a != "-R" && a != "--" with
  | [] => missingOperand "chmod"
  | [mode] => refuse "chmod" ("missing operand after " ++ quoted mode)
  | mode :: names =>
    forFiles "chmod" (fun name => "cannot access " ++ name) (fun name p => do
      let place ← p.files.entry p.cwd ⟨name⟩
      match place.entry, executableMode? mode with
      | some (.file content _), some executable =>
        .ok (p.files.put place.location (.file content executable))
      | _, _ => .ok p.files) names

def readlink : Program := fun args => do
  let a ← arguments "readlink" "femnqsvz" args
  if a.operands.isEmpty then missingOperand "readlink"
  let resolved := a.has 'f' || a.has 'e' || a.has 'm'
  for name in a.operands do
    let p ← get
    match p.files.find p.cwd resolved ⟨name⟩ with
    | .ok ⟨l, entry⟩ =>
      match resolved, entry with
      | true, _ => say "readlink" (l.path.text ++ "\n")
      | false, some (.link target) => say "readlink" (target.text ++ "\n")
      | _, _ => leave 1
    | .error _ => leave 1

end ComposeHarness.Machine.Programs
