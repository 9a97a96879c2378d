import ComposeHarness.Duration
import ComposeHarness.Path
import ComposeHarness.SystemError
import ComposeHarness.Text.Lossy

/-!
# File trees

The files of a machine, each under the names that lead to it from the root. Names are texts of
bytes. A path is followed name by name; links on the way are replaced by what they point to.
-/
namespace ComposeHarness.Machine

open Text (Bytes)

/-- The names on the way from the root to an entry. -/
abbrev Location := List String

/-- An entry that stands for something other than a content of its own. -/
inductive Device where
  /-- Takes everything that is written to it and gives nothing back. -/
  | null
  /-- Gives zero bytes for as long as anybody asks. -/
  | zero
  /-- Stands for an open descriptor of the process that uses it. -/
  | descriptor (n : Nat)
  deriving Repr, DecidableEq

inductive Entry where
  | directory
  | file (content : Bytes) (executable : Bool)
  | link (target : Path)
  /-- A program that belongs to the machine. -/
  | program (name : String)
  | device (d : Device)
  deriving Repr, DecidableEq

def Location.path (l : Location) : Path := ⟨"/" ++ String.intercalate "/" l⟩

structure FileTree where
  entries : List (Location × Entry)
  /-- When entries were changed, the latest first. -/
  changes : List (Location × Duration) := []
  /-- The time at which changes are made. -/
  now : Duration := .zero
  deriving Repr, DecidableEq, Inhabited

/-- Where a path leads, and what is there. -/
structure Place where
  location : Location
  entry : Option Entry
  deriving Repr, DecidableEq

namespace FileTree

/-- What lies at a location. The root is always there. -/
def get? (t : FileTree) (l : Location) : Option Entry :=
  if l = [] then some .directory else t.entries.lookup l

/-- Marks an entry as changed now. -/
def touch (t : FileTree) (l : Location) : FileTree :=
  { t with changes := (l, t.now) :: t.changes.filter fun x => x.1 != l }

/-- When an entry was changed; at the beginning, if nothing is known of it. -/
def changed (t : FileTree) (l : Location) : Duration := (t.changes.lookup l).getD .zero

def put (t : FileTree) (l : Location) (e : Entry) : FileTree :=
  let entries :=
    if (t.entries.lookup l).isSome then t.entries.map fun x => if x.1 = l then (l, e) else x
    else t.entries ++ [(l, e)]
  { t with entries }.touch l

/-- Removes an entry with everything below it. -/
def prune (t : FileTree) (l : Location) : FileTree :=
  { t with entries := t.entries.filter fun x => !l.isPrefixOf x.1 }

/-- The name of an entry right below a location. -/
def childName? (parent l : Location) : Option String :=
  if parent.isPrefixOf l then
    match l.drop parent.length with
    | [name] => some name
    | _ => none
  else none

/-- The names right below a location, in order. -/
def children (t : FileTree) (l : Location) : List String :=
  (t.entries.filterMap fun x => childName? l x.1).mergeSort (fun a b => a ≤ b)

def isDirectory (t : FileTree) (l : Location) : Bool := t.get? l = some .directory

/-- How many bytes a name may have. -/
def nameLimit : Nat := 255

/-- Follows the pieces of a path from a location, with a limit to the number of links. The last
piece may be missing; if it is a link, it is followed only on request. -/
def walk (t : FileTree) (followLast : Bool) (links : Nat) (here : Location) :
    List String → Except SystemError Place
  | [] => .ok ⟨here, t.get? here⟩
  | piece :: rest =>
    if !t.isDirectory here then
      .error (if (t.get? here).isSome then .notDirectory else .noEntry)
    else if Path.isSilent piece then walk t followLast links here rest
    else if piece = ".." then walk t followLast links here.dropLast rest
    else if nameLimit < piece.length then .error .nameTooLong
    else
      match t.get? (here ++ [piece]) with
      | some (.link target) =>
        if rest.isEmpty && !followLast then .ok ⟨here ++ [piece], some (.link target)⟩
        else
          match links with
          | 0 => .error .tooManyLinks
          | links + 1 =>
            walk t followLast links (if target.isAbsolute then [] else here) (target.pieces ++ rest)
      | _ => walk t followLast links (here ++ [piece]) rest
termination_by pieces => (links, pieces.length)

/-- How many links a path may lead through. -/
def linkLimit : Nat := 40

/-- Where a path leads from a directory. -/
def find (t : FileTree) (cwd : Location) (followLast : Bool) (p : Path) :
    Except SystemError Place :=
  if p.isEmpty then .error .noEntry
  else t.walk followLast linkLimit (if p.isAbsolute then [] else cwd) p.pieces

/-- The entry that a path leads to. -/
def entry (t : FileTree) (cwd : Location) (p : Path) : Except SystemError Place := do
  let place ← t.find cwd true p
  if place.entry.isSome then .ok place else .error .noEntry

def holds (t : FileTree) (cwd : Location) (p : Path) : Bool := (t.entry cwd p).isOk

def isFile (t : FileTree) (cwd : Location) (p : Path) : Bool :=
  match t.entry cwd p with
  | .ok ⟨_, some (.file ..)⟩ => true
  | .ok ⟨_, some (.program _)⟩ => true
  | _ => false

/-- Whether a path leads to a file that may be run. -/
def isExecutable (t : FileTree) (cwd : Location) (p : Path) : Bool :=
  match t.entry cwd p with
  | .ok ⟨_, some (.file _ executable)⟩ => executable
  | .ok ⟨_, some (.program _)⟩ => true
  | _ => false

/-- How many bytes an endless device gives. -/
def endless : Nat := Nat.pow 2 20

def read (t : FileTree) (cwd : Location) (p : Path) : Except SystemError Bytes := do
  match (← t.entry cwd p).entry with
  | some (.file content _) => .ok content
  | some .directory => .error .isDirectory
  | some (.device .zero) => .ok (List.replicate endless 0)
  | _ => .ok []

def readText (t : FileTree) (cwd : Location) (p : Path) : Except SystemError String := do
  match Text.decodeStrict (← t.read cwd p) with
  | some text => .ok text
  | none => .error .notText

/-- Finds a file that is to be written, or makes one that cannot be run. The content of one that is
there is kept only on request. -/
def openForWriting (t : FileTree) (cwd : Location) (p : Path) (keep : Bool) :
    Except SystemError (Location × FileTree) := do
  let place ← t.find cwd true p
  match place.entry with
  | some .directory => .error .isDirectory
  | some (.file content executable) =>
    .ok (place.location,
      if keep || content.isEmpty then t else t.put place.location (.file [] executable))
  | none => .ok (place.location, t.put place.location (.file [] false))
  | some _ => .ok (place.location, t)

/-- The bytes of a file; what is no file has none. -/
def contentAt (t : FileTree) (l : Location) : Bytes :=
  match t.get? l with
  | some (.file content _) => content
  | _ => []

/-- Puts bytes into a file from a place on, over what is there. -/
def writeAt (t : FileTree) (l : Location) (offset : Nat) (bytes : Bytes) : FileTree :=
  match t.get? l with
  | some (.file content executable) =>
    let before := content.take offset
    let gap := List.replicate (offset - content.length) 0
    t.put l (.file (before ++ gap ++ bytes ++ content.drop (offset + bytes.length)) executable)
  | _ => t

/-- Puts a new entry where nothing is yet. -/
def create (t : FileTree) (cwd : Location) (p : Path) (e : Entry) :
    Except SystemError FileTree := do
  let place ← t.find cwd false p
  match place.entry with
  | none => .ok (t.put place.location e)
  | some _ => .error .alreadyExists

/-- The path without slashes at its end. -/
def withoutEndSlash (p : Path) : Path :=
  let kept := (p.text.toList.reverse.dropWhile (· == '/')).reverse
  if kept.isEmpty then p else ⟨String.ofList kept⟩

def makeDirectory (t : FileTree) (cwd : Location) (p : Path) : Except SystemError FileTree :=
  t.create cwd (withoutEndSlash p) .directory

/-- Makes a directory with everything on the way to it, and puts an entry into it. -/
def plant (t : FileTree) (l : Location) (e : Entry) : FileTree :=
  let parents := (List.range l.length).map fun n => l.take n
  (parents.foldl (fun t p => if (t.get? p).isSome then t else t.put p .directory) t).put l e

end FileTree
end ComposeHarness.Machine
