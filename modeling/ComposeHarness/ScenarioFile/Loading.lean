import ComposeHarness.Config.Basic
import ComposeHarness.Scenario.Suite
import ComposeHarness.ScenarioFile.Execution
import ComposeHarness.ScenarioFile.Validation

/-!
# From files to scenarios

Reads scenario files and binds them to a session and a configuration. Everything about a file that
can go wrong does so while it is read.
-/
namespace ComposeHarness.ScenarioFile

variable {σ : Type}

/-- Reads and checks a file. -/
def load (host : Host σ) (path : Path) (world : σ) : Except Failure ScenarioFile :=
  match host.readText path world with
  | .error cause => .error (.unreadable path.text cause.message)
  | .ok text =>
    match parse text with
    | .ok file => .ok { file with source := path }
    | .error failure => .error (.scenarioFile path.text failure.message)

/-- Reads files in order, up to the first that fails. -/
def loadAll (host : Host σ) (paths : List Path) (world : σ) : Except Failure (List ScenarioFile) :=
  paths.mapM fun path => load host path world

/-- The directory that the commands of the file run in. -/
def commandDirectory (f : ScenarioFile) : Path :=
  match f.workingDir with
  | some dir => f.baseDirectory.resolve dir
  | none => f.baseDirectory

/-- The project of the file, or one made from its name and a random seed. -/
def projectId (f : ScenarioFile) (seed : BitVec 32) : Except Failure ProjectId :=
  match f.project with
  | some id => ProjectId.ofString? id
  | none => .ok (ProjectId.generate f.name seed)

/-- The steps of the file, the cleanups last. -/
def toSteps (host : Host σ) (f : ScenarioFile) : List (Step σ) :=
  f.steps.map (fun d => d.toStep host (if d.bestEffort then .bestEffort else .regular)) ++
    f.cleanup.map (fun d => d.toStep host .cleanup)

/-- Binds the file to a session and a configuration. -/
def toScenario (host : Host σ) (f : ScenarioFile) (session : Session) (config : Config)
    (seed : BitVec 32) : Except Failure (Scenario σ) := do
  let project ← f.projectId seed
  let session := (session.withWorkingDir f.commandDirectory).withVariables f.env.entries
  .ok
    { name := f.name
      session
      project
      naming := config.naming
      poll := config.poll
      steps := f.toSteps host }

/-- Binds files in order, each with a seed of its own. -/
def toScenarios (host : Host σ) (session : Session) (config : Config) :
    List ScenarioFile → σ → Except Failure (List (Scenario σ)) × σ
  | [], world => (.ok [], world)
  | f :: rest, world =>
    let (seed, world) := host.seed world
    match f.toScenario host session config seed with
    | .error failure => (.error failure, world)
    | .ok scenario =>
      let (scenarios, world) := toScenarios host session config rest world
      (scenarios.map (scenario :: ·), world)

/-- The suite of some files. -/
def toSuite (host : Host σ) (session : Session) (config : Config) (files : List ScenarioFile)
    (world : σ) : Except Failure (Suite σ) × σ :=
  let (scenarios, world) := toScenarios host session config files world
  (scenarios.map fun s => ⟨s, config.maxParallel⟩, world)

end ComposeHarness.ScenarioFile
