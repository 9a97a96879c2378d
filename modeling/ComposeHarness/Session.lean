import ComposeHarness.Dict
import ComposeHarness.Path

/-!
# Sessions

A session is the binary under test with the working directory and the variables that every command
of a scenario gets. Changing a session gives a new one.
-/
namespace ComposeHarness

structure Session where
  binary : Path
  workingDir : Option Path := none
  env : Dict String := .empty
  deriving Repr, DecidableEq

namespace Session

def ofBinary (binary : Path) : Session := { binary }

/-- The session of a binary by its name in a directory. -/
def ofDirectory (directory : Path) (name : String) : Session := ofBinary (directory.join ⟨name⟩)

def withWorkingDir (s : Session) (directory : Path) : Session :=
  { s with workingDir := some directory }

def withVariable (s : Session) (key value : String) : Session :=
  { s with env := s.env.insert key value }

/-- Adds variables; of two with one key, and over those of the session, the later wins. -/
def withVariables (s : Session) (vars : List (String × String)) : Session :=
  vars.foldl (fun s v => s.withVariable v.1 v.2) s

end Session
end ComposeHarness
