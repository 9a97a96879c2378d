import ComposeHarness.CommandLine.Dispatch
import ComposeHarness.Machine.Basic

/-!
# The program

Rehearses a command line. The files that its arguments name are put on a machine held in memory,
at the places where they are, and everything then happens there.
-/
namespace ComposeHarness.Rehearsal

/-- The variables that a rehearsal takes over. -/
def variableNames : List String :=
  ["HOME", "PATH", "TMPDIR", "XDG_CONFIG_HOME", "COMPOSE_E2E_CONFIG", "COMPOSE_E2E_BINARY",
    "COMPOSE_E2E_BINARY_DIR"]

/-- The place that a path names when every piece of it is taken as it is written. -/
def locationOf (cwd : Machine.Location) (p : Path) : Machine.Location :=
  p.pieces.foldl (fun here piece =>
    if Path.isSilent piece then here
    else if piece = ".." then here.dropLast
    else here ++ [piece]) (if p.isAbsolute then [] else cwd)

/-- The texts in arguments that may name files. -/
def fileNames (args : List String) : List String :=
  args.flatMap fun a => [a, String.ofList ((a.toList.dropWhile (· != '=')).drop 1)]

/-- The machine without files. -/
def prepare (cwd : Path) (vars : List (String × String)) : Machine :=
  Machine.bare (locationOf [] cwd) (.ofList vars)

/-- The names of the files that a run may read: those in its arguments, and the configuration
file. -/
def neededFiles (m : Machine) (args : List String) : List String :=
  (fileNames args ++ ((Config.location Machine.host m).map Path.text).toList).filter (!·.isEmpty)

/-- Puts a file on a machine if it can be read. -/
def loadFile (m : Machine) (name : String) : IO Machine := do
  try
    let bytes ← IO.FS.readBinFile name
    let here := m.cwd.map Text.Octets.toText
    return m.addFile (locationOf here ⟨name⟩) (.file bytes.toList true)
  catch _ => return m

/-- Carries out a command line and gives its exit code. -/
def carryOut (args : List String) : IO UInt32 := do
  let cwd ← IO.currentDir
  let vars ← variableNames.filterMapM fun name => do
    return (← IO.getEnv name).map fun value => (name, value)
  let bare := prepare ⟨cwd.toString⟩ vars
  let machine ← (neededFiles bare args).foldlM loadFile bare
  let outcome := ((CommandLine.program Machine.host args).run .zero machine).value
  (← IO.getStdout).putStr outcome.stdout
  (← IO.getStderr).putStr outcome.stderr
  return UInt32.ofNat outcome.exitCode.toNat

end ComposeHarness.Rehearsal

def main (args : List String) : IO UInt32 := ComposeHarness.Rehearsal.carryOut args
