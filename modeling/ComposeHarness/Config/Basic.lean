import ComposeHarness.Naming
import ComposeHarness.Path
import ComposeHarness.Poll

/-!
# Configuration

Where the binary under test comes from, and the defaults for polls, suites and names. Command-line
options may name another binary.
-/
namespace ComposeHarness

/-- Where the binary under test is, or how it is built. -/
structure BinaryConfig where
  /-- The name of the executable, which is looked for in `dir` or on the search path. -/
  name : String := "docker"
  dir : Option Path := none
  /-- The command that builds the binary; an empty one means that it is already there. -/
  buildCommand : List String := []
  buildDir : Option Path := none
  /-- The directory that the build writes the binary into. -/
  buildOutput : Option Path := none
  deriving Repr, DecidableEq, Inhabited

structure Config where
  binary : BinaryConfig := {}
  poll : PollSpec := .standard
  /-- How many scenarios run at once at most; zero means all of them. -/
  maxParallel : Nat := 0
  naming : NamingScheme := .standard
  deriving Repr, DecidableEq, Inhabited

/-- A binary as the command line names it: by its name or path, and by its directory. -/
structure BinaryChoice where
  binary : Option String := none
  directory : Option Path := none
  deriving Repr, DecidableEq, Inhabited

namespace BinaryConfig

/-- Names the binary by a text. A text that has a directory and a name in it sets both. -/
def named (config : BinaryConfig) (text : String) : BinaryConfig :=
  match (Path.mk text).parent, (Path.mk text).fileName with
  | some dir, some name =>
    if dir.isEmpty then { config with name := text } else { config with name, dir := some dir }
  | _, _ => { config with name := text }

/-- Puts what the command line says over the configuration. A directory on the command line also
takes the place of one that comes with the name. -/
def choose (config : BinaryConfig) (choice : BinaryChoice) : BinaryConfig :=
  let config := match choice.binary with
    | some text => config.named text
    | none => config
  match choice.directory with
  | some dir => { config with dir := some dir }
  | none => config

@[simp] theorem choose_nothing (config : BinaryConfig) : config.choose {} = config := rfl

@[simp] theorem choose_dir (config : BinaryConfig) (binary : Option String) (dir : Path) :
    (config.choose ⟨binary, some dir⟩).dir = some dir := rfl

end BinaryConfig
end ComposeHarness
