import ComposeHarness.Machine.Script.Cursor
import ComposeHarness.Machine.Shell.Basic

/-!
# What runs under a name

A name stands for a function, for a command of the shell's own or for a program. The shell remembers
the programs that it has found, and forgets them when the search path changes.
-/
namespace ComposeHarness.Machine.Shell

open Run (update)

/-- The commands of the shell's own that are not special. -/
def plainCommands : List String :=
  ["[", "alias", "bg", "cd", "chdir", "command", "echo", "false", "fg", "getopts", "hash", "jobs",
    "kill", "printf", "pwd", "read", "test", "true", "type", "ulimit", "umask", "unalias", "wait"]

def isSpecial (name : String) : Bool := Script.specialCommands.contains name

def isOfShell (name : String) : Bool := isSpecial name || plainCommands.contains name

/-- What a name stands for as a command. -/
inductive Meaning where
  | function (body : Command)
  | ofShell
  | program (path : Path)
  | missing (cause : SystemError)

/-- Where programs are looked for if nothing else says so. -/
def standardPath : String := "/usr/local/sbin:/usr/local/bin:/usr/sbin:/usr/bin:/sbin:/bin"

/-- Looks a program up on a path. Names with a slash are paths themselves, and not looked up. -/
def findOn (p : Process) (path : Option String) (name : String) : Meaning :=
  if name.toList.contains '/' then .program ⟨name⟩
  else
    match findProgram p.files p.cwd path name with
    | .ok found => .program found
    | .error cause => .missing cause

/-- What a name stands for, with or without the functions. -/
def meaningOf (p : Process) (functions : Bool) (path : Option String) (name : String) : Meaning :=
  match if functions then p.functions.lookup name else none with
  | some body => .function body
  | none =>
    if isOfShell name && !name.toList.contains '/' then .ofShell else findOn p path name

/-- Remembers that a program has been found. -/
def remember (name : String) (p : Process) : Process :=
  if name.toList.contains '/' then p
  else if (p.looked.lookup name).isSome then
    let fresh (x : String × Bool) : String × Bool := if x.1 = name then (name, false) else x
    { p with looked := p.looked.map fresh }
  else { p with looked := p.looked ++ [(name, false)] }

/-- Looks a program up before it is needed. -/
def lookAhead (name : String) (p : Process) : Process :=
  match meaningOf p true p.searchPath name with
  | .program _ => remember name p
  | _ => p

/-- How a command is said not to be there. -/
def missingText (cause : SystemError) : String :=
  if cause = .noEntry || cause = .notDirectory then "not found" else cause.reason

/-! ### Remembered programs -/

/-- The number of places in the table of remembered programs. -/
def places : Nat := 31

def placeOf (name : String) : Nat :=
  (name.toList.foldl (fun n c => n + c.toNat) (16 * ((name.toList.head?).map Char.toNat).getD 0)) %
    Nat.pow 2 15 % places

/-- Lists the remembered programs, remembers others, or forgets all of them. -/
def hash (args : List String) : Run Unit := do
  let (flags, names) ← firstOption "r" args
  let p ← get
  leave 0
  if flags.isSome then update fun p => { p with looked := [] }
  else if names.isEmpty then
    let ordered := p.looked.mergeSort fun a b => placeOf a.1 ≤ placeOf b.1
    say (String.join (ordered.filterMap fun (name, stale) =>
      match findOn p p.searchPath name with
      | .program path => some (path.text ++ (if stale then "*" else "") ++ "\n")
      | _ => none))
  else
    for name in names do
      update fun p => { p with looked := p.looked.filter fun x => x.1 ≠ name }
      match meaningOf (← get) true p.searchPath name with
      | .program _ => update (remember name)
      | .missing cause =>
        warn (name ++ ": " ++ missingText cause)
        leave 1
      | _ => pure ()

/-! ### Telling what a name means -/

/-- Tells what runs under a name, in words or in brief. -/
def describe (inWords : Bool) (path : Option String) (name : String) : Run Bool := do
  let p ← get
  let told (words brief : String) : Run Bool := do
    say ((if inWords then name ++ words else brief) ++ "\n")
    return true
  if Script.reservedWords.contains name then told " is a shell keyword" name
  else
    match p.aliases.get? name with
    | some value => told (" is an alias for " ++ value) ("alias " ++ name ++ "=" ++ quote value)
    | none =>
      let tracked := path.isNone && (p.looked.lookup name).isSome
      match meaningOf p true (path <|> p.searchPath) name with
      | .function _ => told " is a shell function" name
      | .ofShell => told (" is a " ++ (if isSpecial name then "special " else "") ++ "shell builtin") name
      | .program found =>
        if p.files.holds p.cwd found then
          if path.isNone then update (remember name)
          told (" is" ++ (if tracked then " a tracked alias for " else " ") ++ found.text) found.text
        else missing
      | .missing _ => missing
where
  missing : Run Bool := do
    if inWords then say (name ++ ": not found\n")
    return false

def type (args : List String) : Run Unit := do
  let (_, names) ← readOptions "" args
  leave 0
  for name in names do
    if !(← describe true none name) then leave 127

/-- Tells what runs under a name, or in a longer form what the name means. -/
def locate (args : List String) : Run Unit := do
  let (flags, names) ← readOptions "pvV" args
  let has (c : Char) : Bool := flags.any fun f => f.1 == c
  leave 0
  match names with
  | name :: _ =>
    if has 'v' || has 'V' then
      if !(← describe (has 'V') (if has 'p' then some standardPath else none) name) then leave 127
  | [] => pure ()

end ComposeHarness.Machine.Shell
