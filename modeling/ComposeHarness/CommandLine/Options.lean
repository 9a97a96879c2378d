import ComposeHarness.CommandLine.Arguments
import ComposeHarness.Config.Basic
import ComposeHarness.Text.Digits

/-!
# Options of the program

What the program is asked to do, read from its command line. Two variables stand in for options that
are not given.
-/
namespace ComposeHarness.CommandLine

/-- The names that are asked for. -/
structure NameQuery where
  project : String
  service : Option String
  index : Nat
  network : Option String
  volume : Option String
  separator : Option Char
  deriving Repr, DecidableEq

/-- The suite that is to be run. -/
structure RunRequest where
  scenarios : List Path
  binary : BinaryChoice
  buildCommand : Option String
  jobs : Option Nat
  deriving Repr, DecidableEq

inductive Request where
  | run (request : RunRequest)
  | validate (scenarios : List Path)
  | locate (binary : BinaryChoice)
  | names (query : NameQuery)
  deriving Repr, DecidableEq

structure Options where
  config : Option Path
  verbose : Bool
  request : Request
  deriving Repr, DecidableEq

namespace Options

/-! ### Values -/

def anyText (_ : String) : Bool := true

def isPath (s : String) : Bool := !s.isEmpty

def isChar (s : String) : Bool := s.length = 1

/-- A number of 64 bits, with an optional plus sign before it. -/
def count? (s : String) : Option Nat :=
  let digits := match s.toList with
    | '+' :: rest => rest
    | cs => cs
  (Text.numeral? 10 digits).filter (· < Nat.pow 2 64)

/-- A number of 32 bits; it may have a sign as long as it is not negative. -/
def index? (s : String) : Option Nat :=
  match Text.integer? 10 s.toList with
  | some n => if 0 ≤ n ∧ n < Int.pow 2 32 then some n.toNat else none
  | none => none

/-! ### The options of each command -/

def helpOption : OptionSpec := ⟨"help", some 'h', .stop (.help none), "Print help", "", none, none⟩

def versionOption : OptionSpec :=
  ⟨"version", some 'V', .stop .version, "Print version", "", none, none⟩

def globalOptions : List OptionSpec :=
  [⟨"config", none, .value isPath,
      "Configuration file (defaults to the platform config directory)", "CONFIG", none, none⟩,
    ⟨"verbose", some 'v', .flag, "Verbose output and debug logging", "", none, none⟩]

def binaryVariable : String := "COMPOSE_E2E_BINARY"

def binaryDirVariable : String := "COMPOSE_E2E_BINARY_DIR"

def binaryOptions : List OptionSpec :=
  [⟨"binary", none, .value anyText, "Executable name or path", "BINARY", some binaryVariable, none⟩,
    ⟨"binary-dir", none, .value isPath,
      "Directory containing the executable (skips the PATH lookup)", "BINARY_DIR",
      some binaryDirVariable, none⟩]

def runOptions : List OptionSpec :=
  binaryOptions ++
  [⟨"build-cmd", none, .value anyText,
      "Build the binary before running, e.g. --build-cmd \"make cli\"", "BUILD_COMMAND", none, none⟩,
    ⟨"jobs", some 'j', .value fun s => (count? s).isSome,
      "Maximum number of scenarios running at once (0 = unlimited)", "JOBS", none, none⟩]

def namesOptions : List OptionSpec :=
  [⟨"project", none, .value anyText, "Project identifier", "PROJECT", none, none⟩,
    ⟨"service", none, .value anyText, "Service whose container (and image) name to print",
      "SERVICE", none, none⟩,
    ⟨"index", none, .value fun s => (index? s).isSome, "Container index within the service",
      "INDEX", none, some "1"⟩,
    ⟨"network", none, .value anyText, "Network name within the project", "NETWORK", none, none⟩,
    ⟨"volume", none, .value anyText, "Volume name within the project", "VOLUME", none, none⟩,
    ⟨"separator", none, .value isChar,
      "Separator between name components (overrides the config file)", "SEPARATOR", none, none⟩]

/-- What a command takes beside the options that all commands have. -/
def optionsOf : String → List OptionSpec
  | "run" => runOptions
  | "locate" => binaryOptions
  | "names" => namesOptions
  | _ => []

/-- Everything that may stand behind a command. -/
def allOptionsOf (command : String) : List OptionSpec :=
  globalOptions ++ [helpOption] ++ optionsOf command

def noOperand (_ : String) : Bool := false

/-! ### Requests -/

/-- The binary that is chosen by options, or else by variables. -/
def binaryChoice (lookup : String → Option String) (a : Arguments) : Except Stop BinaryChoice :=
  let binary := (a.value? "binary").orElse fun _ => lookup binaryVariable
  let dir := (a.value? "binary-dir").orElse fun _ => lookup binaryDirVariable
  if dir.all isPath then .ok ⟨binary, dir.map Path.mk⟩ else .error .usage

def paths (a : Arguments) : Except Stop (List Path) :=
  if a.operands.isEmpty then .error .usage else .ok (a.operands.map Path.mk)

def readRun (lookup : String → Option String) (args : List String) :
    Except Stop (Request × Arguments) := do
  let a ← Arguments.read (allOptionsOf "run") isPath args
  let binary ← binaryChoice lookup a
  let scenarios ← paths a
  .ok (.run ⟨scenarios, binary, a.value? "build-cmd", (a.value? "jobs").bind count?⟩, a)

def readValidate (args : List String) : Except Stop (Request × Arguments) := do
  let a ← Arguments.read (allOptionsOf "validate") isPath args
  .ok (.validate (← paths a), a)

def readLocate (lookup : String → Option String) (args : List String) :
    Except Stop (Request × Arguments) := do
  let a ← Arguments.read (allOptionsOf "locate") noOperand args
  .ok (.locate (← binaryChoice lookup a), a)

def readNames (args : List String) : Except Stop (Request × Arguments) := do
  let a ← Arguments.read (allOptionsOf "names") noOperand args
  match a.value? "project" with
  | none => .error .usage
  | some project =>
    .ok (.names
      { project
        service := a.value? "service"
        index := ((a.value? "index").bind index?).getD 1
        network := a.value? "network"
        volume := a.value? "volume"
        separator := (a.value? "separator").bind fun s => s.toList.head? }, a)

/-- The commands that there are, each with what it does. -/
def commands : List (String × String) :=
  [("run", "Run scenario files against the CLI under test"),
    ("validate", "Parse and check scenario files without running them"),
    ("locate", "Print the binary that would be used"),
    ("names", "Print the resource names derived from a project"),
    ("help", "Print this message or the help of the given subcommand(s)")]

/-- What is asked with a request for help: only commands that there are have any. -/
def readHelp : List String → Stop
  | [] => .help none
  | [command] => if (commands.lookup command).isSome then .help (some command) else .usage
  | _ => .usage

/-- Reads a command line. What stands after the command wins over what stands before it. -/
def read (lookup : String → Option String) (args : List String) : Except Stop Options := do
  let (top, command, rest) ← Arguments.readFront (versionOption :: helpOption :: globalOptions)
    (args.length + 1) args {}
  if command = "help" then .error (readHelp rest)
  let (request, inner) ← Except.mapError (Stop.behind command)
    (match command with
    | "run" => readRun lookup rest
    | "validate" => readValidate rest
    | "locate" => readLocate lookup rest
    | "names" => readNames rest
    | _ => .error .usage)
  .ok
    { config := ((inner.value? "config").orElse fun _ => top.value? "config").map Path.mk
      verbose := top.has "verbose" || inner.has "verbose"
      request }

end Options
end ComposeHarness.CommandLine
