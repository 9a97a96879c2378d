import ComposeHarness.Machine.Shell.Basic

/-!
# The current directory

A shell knows its directory by the way that led there: two dots take back the last name of that way,
whatever links are on it. On request the way is forgotten, and the place itself counts.
-/
namespace ComposeHarness.Machine.Shell

open Run (update)

/-- The names of a way after further pieces. -/
def follow (names : List String) : List String → List String
  | [] => names
  | ".." :: rest => follow names.dropLast rest
  | piece :: rest => follow (if Path.isSilent piece then names else names ++ [piece]) rest

/-- Where a path leads from a directory by way of names alone. Two slashes at the start, but not more
of them, stay. -/
def wayTo (directory path : String) : String :=
  let start := if path.startsWith "/" then path else directory
  let root := if start.startsWith "//" && !start.startsWith "///" then "//" else "/"
  let before := if path.startsWith "/" then [] else (Path.mk directory).pieces
  root ++ String.intercalate "/" (follow (follow [] before) (Path.mk path).pieces)

example : wayTo "/usr/lib" "../bin/./x" = "/usr/bin/x" ∧ wayTo "//a" ".." = "//" ∧
    wayTo "/a" "///b" = "/b" := by decide +kernel

/-- Notes the directory in the variables of the shell. -/
def noteDirectory (directory : String) : Run Unit := do
  let before := (← get).directory
  assign "OLDPWD" before
  update fun p => { p.publish "OLDPWD" with directory }
  assign "PWD" directory
  update (·.publish "PWD")

/-- Moves to a directory, and says whether there is one. -/
def enter (physical : Bool) (path : String) : Run Bool := do
  let p ← get
  let way := wayTo p.directory path
  match p.files.entry p.cwd ⟨if physical then path else way⟩ with
  | .ok ⟨l, some .directory⟩ =>
    update fun p => { p with
      cwd := l
      looked := p.looked.map fun (name, _) => (name, true) }
    noteDirectory (if physical then l.path.text else way)
    return true
  | _ => return false

/-- The directories in which a path is looked for, if it does not say itself where it starts; each
with whether it has to be told. -/
def startingPlaces (p : Process) (path : String) : List (String × Bool) :=
  match p.vars.value? "CDPATH", (Path.mk path).pieces with
  | _, "" :: _ :: _ => []
  | _, "." :: _ => []
  | _, ".." :: _ => []
  | some places, _ =>
    (places.splitOn ":").filterMap fun place =>
      let whole := if place.isEmpty then path else place ++ "/" ++ path
      match p.files.entry p.cwd ⟨whole⟩ with
      | .ok ⟨_, some .directory⟩ => some (whole, !place.isEmpty)
      | _ => none
  | none, _ => []

/-- The last of the options that say which way counts. -/
def isPhysical (flags : List (Char × String)) : Bool :=
  (flags.getLast?.map (·.1)) = some 'P'

/-- Moves to the directory that is named, to the last one for a dash, or else home. -/
def changeDirectory (args : List String) : Run Unit := do
  let (flags, args) ← readOptions "LP" args
  let p ← get
  let valueOf (name : String) : String := (p.vars.value? name).getD ""
  let (path, told) := match args with
    | [] => (valueOf "HOME", false)
    | "-" :: _ => (valueOf "OLDPWD", true)
    | path :: _ => (path, false)
  let path := if path.isEmpty then "." else path
  let (goal, told) := match startingPlaces p path with
    | (whole, found) :: _ => (whole, told || found)
    | [] => (path, told)
  if !(← enter (isPhysical flags) goal) then fail ("can't cd to " ++ path)
  if told then say ((← get).directory ++ "\n")
  leave 0

/-- Tells the current directory. -/
def printDirectory (args : List String) : Run Unit := do
  let (flags, _) ← readOptions "LP" args
  let p ← get
  say ((if isPhysical flags then p.cwd.path.text else p.directory) ++ "\n")
  leave 0

end ComposeHarness.Machine.Shell
