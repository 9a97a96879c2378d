/-!
# Paths

A path is a text whose components are separated by slashes. A path that starts with a slash is
absolute. Repeated slashes and components that are a single dot count for nothing, except a dot at
the very start of a relative path.
-/
namespace ComposeHarness

structure Path where
  text : String
  deriving Repr, DecidableEq, Inhabited

namespace Path

inductive Component where
  | root
  | current
  | parent
  | name (text : String)
  deriving Repr, DecidableEq

def isAbsolute (p : Path) : Bool :=
  p.text.toList.head? = some '/'

def isEmpty (p : Path) : Bool := p.text.isEmpty

/-- An absolute second path replaces the first; otherwise one slash comes between them, unless the
first is empty or ends with one. -/
def join (p q : Path) : Path :=
  if q.isAbsolute then q
  else if p.isEmpty || p.text.toList.getLast? = some '/' then ⟨p.text ++ q.text⟩
  else ⟨p.text ++ "/" ++ q.text⟩

/-- The pieces between slashes, empty ones included. -/
def split : List Char → List (List Char)
  | [] => [[]]
  | c :: cs =>
    match split cs with
    | [] => [[c]]
    | piece :: rest => if c == '/' then [] :: piece :: rest else (c :: piece) :: rest

def pieces (p : Path) : List String :=
  (split p.text.toList).map String.ofList

/-- A piece that names no component. -/
def isSilent (piece : String) : Bool := piece == "" || piece == "."

def componentOf (piece : String) : Component :=
  if piece == ".." then .parent else if piece == "." then .current else .name piece

def components (p : Path) : List Component :=
  match p.pieces with
  | [] => []
  | first :: rest =>
    let later := (rest.filter (fun piece => !isSilent piece)).map componentOf
    if first != "" then componentOf first :: later
    else if p.isAbsolute then .root :: later
    else later

/-- Drops the silent pieces at the end. -/
def dropSilentEnd (pieces : List String) : List String :=
  pieces.foldr (fun piece rest => if rest.isEmpty && isSilent piece then [] else piece :: rest) []

/-- The path without its last component, as it is written, or none for the root and the empty
path. -/
def parent (p : Path) : Option Path :=
  match p.pieces with
  | [] => none
  | first :: rest =>
    match dropSilentEnd rest with
    | [] => if first == "" then none else some ⟨""⟩
    | kept =>
      let above := first :: dropSilentEnd kept.dropLast
      if above == [""] then some (if p.isAbsolute then ⟨"/"⟩ else ⟨""⟩)
      else some ⟨String.intercalate "/" above⟩

/-- The last component, if it is a name. -/
def fileName (p : Path) : Option String :=
  match p.components.getLast? with
  | some (.name text) => some text
  | _ => none

/-- Takes a path relative to a directory; an absolute path stays as it is. -/
def resolve (base p : Path) : Path :=
  if p.isAbsolute then p else base.join p

@[simp] theorem join_absolute {p q : Path} (h : q.isAbsolute = true) : p.join q = q := by
  simp [join, h]

@[simp] theorem resolve_absolute {p q : Path} (h : q.isAbsolute = true) : p.resolve q = q := by
  simp [resolve, h]

/-- Resolving is joining. -/
theorem resolve_eq_join (p q : Path) : p.resolve q = p.join q := by
  unfold resolve join
  split <;> simp_all

example : (Path.mk "a//b").parent = some ⟨"a"⟩ ∧ (Path.mk "//a").parent = some ⟨"/"⟩ ∧
    (Path.mk "docker/").parent = some ⟨""⟩ ∧ (Path.mk "/").parent = none ∧
    (Path.mk "./a").parent = some ⟨"."⟩ := by decide +kernel
example : (Path.mk "a/.").fileName = some "a" ∧ (Path.mk "a/..").fileName = none := by
  decide +kernel

end Path
end ComposeHarness
