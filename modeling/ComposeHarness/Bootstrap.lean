import ComposeHarness.Command.Run
import ComposeHarness.Config.Basic
import ComposeHarness.Scenario.Suite
import ComposeHarness.Text.Blank
import ComposeHarness.Text.Quoted

/-!
# Bootstrap

Before any scenario runs, the binary under test is built or located and staged: a fresh directory
gets a link to it. Afterwards the directory is torn down again. Whatever goes wrong before the
first scenario is a bootstrap failure, and then nothing is left behind.
-/
namespace ComposeHarness

/-- A binary that has been staged: its directory and its name there. -/
structure StagedBinary where
  dir : Path
  name : String
  deriving Repr, DecidableEq

namespace StagedBinary

def path (b : StagedBinary) : Path := b.dir.join ⟨b.name⟩

/-- A new session for the binary. -/
def session (b : StagedBinary) : Session := .ofDirectory b.dir b.name

end StagedBinary

namespace Bootstrap

variable {σ : Type}

/-- Finds an existing binary, in its directory or on the search path. -/
def locate (host : Host σ) (config : BinaryConfig) (world : σ) : Except Failure Path := do
  let path ←
    match config.dir with
    | some dir => .ok (dir.join ⟨config.name⟩)
    | none =>
      match host.search config.name world with
      | .ok path => .ok path
      | .error reason =>
        .error (.bootstrap ("'" ++ config.name ++ "' not found on PATH: " ++ reason))
  if host.isFile path world then .ok path
  else .error (.bootstrap ("binary not found at " ++ path.text))

/-- How a failure tells of the end of a build. -/
def describeEnd : ExitStatus → String
  | .code n => "code " ++ toString n
  | .signal _ => "a signal"

/-- What a build that was run means. -/
def checkBuild (command : String) : Except SystemError Completion → Except Failure Unit
  | .error cause =>
    .error (.bootstrap ("failed to run '" ++ command ++ "': " ++ cause.message))
  | .ok done =>
    if done.status = .code 0 then .ok ()
    else
      let stderr := Text.decodeLossy (Command.Captured.ofReads done.reads).stderr
      .error (.bootstrap ("'" ++ command ++ "' exited with " ++ describeEnd done.status ++ "\n" ++
        Text.trimEnd stderr))

/-- Where a build puts the binary. -/
def builtPath (config : BinaryConfig) : Path :=
  let buildDir := config.buildDir.getD ⟨"."⟩
  let output := match config.buildOutput with
    | some dir => buildDir.resolve dir
    | none => buildDir
  output.join ⟨config.name⟩

/-- Builds the binary. -/
def build (host : Host σ) (config : BinaryConfig) (program : String) (arguments : List String) :
    Act σ Path := do
  let outcome ← host.spawn ⟨⟨program⟩, arguments, some (config.buildDir.getD ⟨"."⟩), .empty⟩
  Act.ofExcept (checkBuild (Command.line program arguments) outcome)
  let path := builtPath config
  Act.inspect fun world =>
    if host.isFile path world then .ok path
    else .error (.bootstrap ("build succeeded but " ++ path.text ++ " does not exist"))

/-- Links a binary into a fresh directory. If that fails, the directory is removed again. -/
def stage (host : Host σ) (source : Path) (name : String) (world : σ) :
    Except Failure StagedBinary × σ :=
  match host.canonical source world with
  | .error cause =>
    (.error (.bootstrap ("cannot resolve " ++ source.text ++ ": " ++ cause.message)), world)
  | .ok source =>
    match host.makeStaging world with
    | (.error cause, world) =>
      (.error (.bootstrap ("cannot create staging directory: " ++ cause.message)), world)
    | (.ok dir, world) =>
      let staged : StagedBinary := ⟨dir, name⟩
      match host.link source staged.path world with
      | (.ok _, world) => (.ok staged, world)
      | (.error cause, world) =>
        (.error (.bootstrap ("cannot stage " ++ source.text ++ " into " ++ dir.text ++ ": " ++
          cause.message)), (host.removeTree dir world).2)

/-- Removes the directory of a staged binary. -/
def teardown (host : Host σ) (b : StagedBinary) (world : σ) : Except Failure Unit × σ :=
  match host.removeTree b.dir world with
  | (.ok _, world) => (.ok (), world)
  | (.error cause, world) =>
    (.error (.cleanup ("failed to remove " ++ b.dir.text ++ ": " ++ cause.message)), world)

/-- Builds or locates the binary and stages it. -/
def setup (host : Host σ) (config : BinaryConfig) : Act σ StagedBinary := do
  let source ←
    match config.buildCommand with
    | [] => Act.inspect (locate host config)
    | program :: arguments => build host config program arguments
  Act.ofState (stage host source config.name)

end Bootstrap

/-- Runs a suite as a part of a longer computation. -/
def Suite.timed {σ : Type} (s : Suite σ) : Timed σ SuiteReport := fun _ world =>
  let done := s.run world
  ⟨done.report, done.report.duration, done.world⟩

/-- Sets the binary up, makes the suite for it, runs it, and tears down, whether or not there was a
suite. A teardown that fails changes nothing about the report. -/
def Harness.run {σ : Type} (host : Host σ) (config : BinaryConfig)
    (makeSuite : StagedBinary → σ → Except Failure (Suite σ) × σ) : Act σ SuiteReport := do
  let staged ← Bootstrap.setup host config
  let outcome ← ExceptT.lift (do
    match ← Timed.ofState (makeSuite staged) with
    | .ok suite => return .ok (← suite.timed)
    | .error failure => return .error failure)
  let _ ← ExceptT.lift (Timed.ofState (Bootstrap.teardown host staged))
  Act.ofExcept outcome

end ComposeHarness
