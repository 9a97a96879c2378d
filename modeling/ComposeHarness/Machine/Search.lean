import ComposeHarness.Machine.FileTree

/-!
# Looking programs up

Finds an executable by its name on a search path. A name with a directory in it is taken as a path
and looked up nowhere else.
-/
namespace ComposeHarness.Machine

/-- How a component of a path is written. -/
def written : Path.Component → String
  | .root => "/"
  | .current => "."
  | .parent => ".."
  | .name text => text

/-- The path that adds components to another one. -/
def extend (p : Path) (components : List Path.Component) : Path :=
  components.foldl (fun p c => p.join ⟨written c⟩) p

/-- The directories of a search path. A first component that is a tilde stands for the home
directory. -/
def searchDirectories (home : Path) (searchPath : String) : List Path :=
  (searchPath.splitOn ":").map fun dir =>
    match (Path.mk dir).components with
    | .name "~" :: rest => extend home rest
    | _ => ⟨dir⟩

/-- A path below a directory, without the dots at its start. -/
def absolute (cwd : Location) (p : Path) : Path :=
  if p.isAbsolute then p
  else extend cwd.path (p.components.dropWhile (· == .current))

/-- The executable with a name or path. -/
def search (t : FileTree) (cwd : Location) (home : Path) (searchPath : Option String)
    (name : String) : Except String Path :=
  let found (paths : List Path) : Except String Path :=
    match paths.find? (t.isExecutable cwd) with
    | some path => .ok path
    | none => .error "cannot find binary path"
  if 1 < (Path.mk name).components.length then found [absolute cwd ⟨name⟩]
  else
    match searchPath with
    | some dirs => found ((searchDirectories home dirs).map fun dir => dir.join ⟨name⟩)
    | none => .error "no path to search and provided name is not an absolute path"

end ComposeHarness.Machine
