import ComposeHarness.Bootstrap
import ComposeHarness.CommandLine.Help
import ComposeHarness.Config.Location
import ComposeHarness.Report.Text
import ComposeHarness.ScenarioFile.Loading

/-!
# Carrying out command lines

Each request gives the text for the standard output and an exit code. A failure is told of on the
error output.
-/
namespace ComposeHarness.CommandLine

variable {σ : Type}

/-- What the program leaves behind when it ends. -/
structure Outcome where
  exitCode : Int
  stdout : String
  stderr : String
  deriving Repr, DecidableEq

/-- The configuration: from a file that must be there, or from the usual place. -/
def loadConfig (host : Host σ) (path : Option Path) (world : σ) : Except Failure Config :=
  match path with
  | some path =>
    if host.pathExists path world then Config.loadFrom host path world
    else .error (.config ("config file " ++ path.text ++ " does not exist"))
  | none => Config.load host world

/-! ### Running suites -/

/-- Puts the options of a run over the configuration. -/
def RunRequest.apply (r : RunRequest) (config : Config) : Config :=
  let binary := config.binary.choose r.binary
  let binary := match r.buildCommand with
    | some command => { binary with buildCommand := Text.words command }
    | none => binary
  { config with binary, maxParallel := r.jobs.getD config.maxParallel }

/-- Runs scenario files. All of them are read before anything is built. -/
def runSuite (host : Host σ) (configPath : Option Path) (r : RunRequest) : Act σ SuiteReport := do
  let config ← Act.inspect (loadConfig host configPath)
  let config := r.apply config
  let files ← Act.inspect (ScenarioFile.loadAll host r.scenarios)
  Harness.run host config.binary fun staged =>
    ScenarioFile.toSuite host staged.session config files

/-! ### Validating files -/

def validLine (path : Path) (file : ScenarioFile) : String :=
  "  ✓ " ++ path.text ++ " (" ++ file.name ++ ", " ++
    toString file.definitions.length ++ " steps)\n"

def invalidLine (path : Path) (failure : Failure) : String :=
  "  ✗ " ++ path.text ++ ": " ++ failure.message ++ "\n"

/-- One line for each file, and an exit code that tells whether all are valid. -/
def validate (host : Host σ) (paths : List Path) (world : σ) : Int × String :=
  let loaded := paths.map fun path => (path, ScenarioFile.load host path world)
  let lines := loaded.map fun
    | (path, .ok file) => validLine path file
    | (path, .error failure) => invalidLine path failure
  (if loaded.all (fun x => x.2.isOk) then 0 else 1, String.join lines)

/-! ### Names -/

/-- The names that a query asks for, each with its kind. -/
def NameQuery.answer (q : NameQuery) (naming : NamingScheme) (project : ProjectId) :
    List (String × String) :=
  let id := project.text
  [("project", id)] ++
  (match q.service with
    | some service =>
      [("container", naming.containerName id service q.index),
        ("image", naming.imageName id service)]
    | none => []) ++
  [("network", naming.networkName id (q.network.getD "default"))] ++
  (match q.volume with
    | some volume => [("volume", naming.volumeName id volume)]
    | none => [])

/-- How wide the column of the kinds is. -/
def kindWidth : Nat := 10

def nameLine (entry : String × String) : String :=
  let title := entry.1 ++ ":"
  title ++ String.ofList (List.replicate (kindWidth - title.length) ' ') ++ " " ++ entry.2 ++ "\n"

/-- The lines for a query. The configuration is read only if its separator is needed. -/
def names (host : Host σ) (configPath : Option Path) (q : NameQuery) (world : σ) :
    Except Failure String := do
  let project ← ProjectId.ofString? q.project
  let naming ←
    match q.separator with
    | some separator => .ok ⟨separator⟩
    | none => Config.naming <$> loadConfig host configPath world
  .ok (String.join ((q.answer naming project).map nameLine))

/-! ### The program -/

/-- Carries out a request and gives the exit code and the standard output. -/
def dispatch (host : Host σ) (o : Options) : Act σ (Int × String) :=
  match o.request with
  | .run r => do
    let report ← runSuite host o.config r
    return (report.exitCode, Report.Format.suiteText ⟨o.verbose, false⟩ report)
  | .validate paths => Act.inspect fun world => .ok (validate host paths world)
  | .locate binary => do
    let config ← Act.inspect (loadConfig host o.config)
    let path ← Act.inspect (Bootstrap.locate host (config.binary.choose binary))
    return (0, path.text ++ "\n")
  | .names q => Act.inspect fun world => (names host o.config q world).map fun text => (0, text)

def versionText : String := "compose-e2e 0.1.0\n"

/-- The outcome of a command line that asks for nothing to be done. -/
def Stop.outcome (lookup : String → Option String) : Stop → Outcome
  | .usage => ⟨2, "", Help.text lookup none⟩
  | .help command => ⟨0, Help.text lookup command, ""⟩
  | .version => ⟨0, versionText, ""⟩

/-- The whole program. -/
def program (host : Host σ) (args : List String) : Timed σ Outcome := do
  let world ← Timed.get
  let lookup := fun name => host.lookupVariable name world
  match Options.read lookup args with
  | .error stop => return stop.outcome lookup
  | .ok options =>
    match ← (dispatch host options).run with
    | .ok (code, text) => return ⟨code, text, ""⟩
    | .error failure => return ⟨1, "", "Error: " ++ failure.message ++ "\n"⟩

end ComposeHarness.CommandLine
