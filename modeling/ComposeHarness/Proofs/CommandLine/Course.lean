import ComposeHarness.CommandLine.Dispatch
import ComposeHarness.Proofs.Harness.Course
import ComposeHarness.Proofs.ScenarioFile.Expansion

/-!
# The course of a run

A run reads its configuration and then all of its files. Only if every file loads is anything done
at the host; the harness then takes its course, and the exit code is that of the suite.
-/
namespace ComposeHarness.CommandLine

variable {σ : Type}

/-- What makes the suite of some files. -/
def fileSuites (host : Host σ) (config : Config) (files : List ScenarioFile) : SuiteBuilder σ :=
  fun staged => ScenarioFile.toSuite host staged.session config files

/-- Runs scenario files, whose suites are made by a builder and run in some way. -/
def runSuiteWith (runner : Suite σ → Timed σ SuiteReport) (host : Host σ) (configPath : Option Path)
    (r : RunRequest) (makeSuite : Config → List ScenarioFile → SuiteBuilder σ) :
    Act σ SuiteReport := do
  let config ← Act.inspect (loadConfig host configPath)
  let config := r.apply config
  let files ← Act.inspect (ScenarioFile.loadAll host r.scenarios)
  Harness.runBy runner host config.binary (makeSuite config files)

theorem runSuite_eq (host : Host σ) (configPath : Option Path) (r : RunRequest) :
    runSuite host configPath r =
      runSuiteWith Suite.timed host configPath r (fileSuites host) := rfl

/-- The exit code of a run and its standard output. -/
def Options.answer (o : Options) (report : SuiteReport) : Int × String :=
  (report.exitCode, Report.Format.suiteText ⟨o.verbose, false⟩ report)

theorem dispatch_run (host : Host σ) (o : Options) (r : RunRequest) :
    dispatch host { o with request := .run r } =
      o.answer <$> runSuiteWith Suite.timed host o.config r (fileSuites host) := by
  rw [map_eq_pure_bind, ← runSuite_eq]
  rfl

/-- A run on a watched host, with the milestones of its suite. -/
def watchedRun (runner : Suite (Watched Milestone σ) → Timed (Watched Milestone σ) SuiteReport)
    (host : Host σ) (o : Options) (r : RunRequest) : Act (Watched Milestone σ) (Int × String) :=
  o.answer <$> runSuiteWith runner (host.watched .called) o.config r fun config files =>
    (fileSuites (host.watched .called) config files).noted

/-- Before the harness runs, the configuration and the files are read, and nothing else is done. -/
theorem answer_runSuiteWith_run (runner : Suite σ → Timed σ SuiteReport) (host : Host σ)
    (o : Options) (r : RunRequest) {config : Config} {world : σ}
    (loads : loadConfig host o.config world = .ok config)
    (makeSuite : Config → List ScenarioFile → SuiteBuilder σ) (now : Duration) :
    (o.answer <$> runSuiteWith runner host o.config r makeSuite).run.run now world =
      match ScenarioFile.loadAll host r.scenarios world with
      | .error failure => ⟨.error failure, .zero, world⟩
      | .ok files =>
        let done := (Harness.runBy runner host (r.apply config).binary
          (makeSuite (r.apply config) files)).run.run now world
        ⟨done.value.map o.answer, done.spent, done.world⟩ := by
  have hinspect : ∀ {α : Type} (look : σ → Except Failure α) (time : Duration),
      (Act.inspect look).run.run time world = ⟨look world, .zero, world⟩ := fun _ _ => rfl
  simp only [runSuiteWith, ExceptT.run_map, Timed.run_map, ExceptT.run_bind, Timed.run_bind,
    hinspect, loads, Duration.add_zero, Duration.zero_add]
  cases ScenarioFile.loadAll host r.scenarios world with
  | error failure => simp [Except.map]
  | ok files => simp

/-! ### The course -/

/-- How a run goes once the configuration is read: the exit code or the failure, and the milestones
that it passes. `Runs` says what the run of a suite reports. -/
inductive Course (host : Host σ) (config : Config) (paths : List Path)
    (Runs : Suite σ → σ → SuiteReport → Prop) (now : Duration) (world : σ) :
    Except Failure Int → List Milestone → Prop where
  /-- A file does not load, and nothing is done. -/
  | notLoaded {before after : List Path} {path : Path} {failure : Failure}
      (split : paths = before ++ path :: after)
      (first : ∀ p ∈ before, ∃ f, ScenarioFile.load host p world = .ok f)
      (failed : ScenarioFile.load host path world = .error failure) :
      Course host config paths Runs now world (.error failure) []
  /-- All files load, and the harness takes its course. -/
  | loaded {files : List ScenarioFile} {result : Except Failure SuiteReport} {log : List Milestone}
      (loads : List.Forall₂ (fun p f => ScenarioFile.load host p world = .ok f) paths files)
      (course : Harness.Course host config.binary (fileSuites host config files) Runs now world
        result log) :
      Course host config paths Runs now world (result.map SuiteReport.exitCode) log

theorem shadows_fileSuites (host : Host σ) (config : Config) (files : List ScenarioFile) :
    (fileSuites (host.watched .called) config files).Shadows (fileSuites host config files) :=
  fun staged world past => ScenarioFile.alike_toSuite host staged.session config files world past

section
variable {host : Host σ} {config : Config} {paths : List Path} {now : Duration} {world : σ}
  {Runs : Suite σ → σ → SuiteReport → Prop}

/-- The failure is that of the first file that does not load. -/
theorem Course.of_error {failure : Failure}
    (hload : ScenarioFile.loadAll host paths world = .error failure) :
    Course host config paths Runs now world (.error failure) [] := by
  obtain ⟨before, path, after, split, first, failed⟩ := Sequence.mapM_eq_error_iff.1 hload
  exact .notLoaded split first failed

/-- The exit code is that of the suite. -/
theorem Course.of_ok {files : List ScenarioFile} {result : Except Failure SuiteReport}
    {log : List Milestone} (hload : ScenarioFile.loadAll host paths world = .ok files)
    (course : Harness.Course host config.binary (fileSuites host config files) Runs now world
      result log) (o : Options) :
    Course host config paths Runs now world ((result.map o.answer).map Prod.fst) log := by
  have hcode : (result.map o.answer).map Prod.fst = result.map SuiteReport.exitCode := by
    cases result <;> rfl
  rw [hcode]
  exact .loaded (Sequence.mapM_eq_ok_iff.1 hload) course

end

section
variable (host : Host σ) (o : Options) (r : RunRequest) (now : Duration) (world : σ)
  {config : Config} (loads : loadConfig host o.config world = .ok config)
include loads

theorem watchedRun_run
    (runner : Suite (Watched Milestone σ) → Timed (Watched Milestone σ) SuiteReport) :
    (watchedRun runner host o r).run.run now (world, []) =
      match ScenarioFile.loadAll host r.scenarios world with
      | .error failure => ⟨.error failure, .zero, (world, [])⟩
      | .ok files =>
        let done := (Harness.runBy runner (host.watched .called) (r.apply config).binary
          (fileSuites (host.watched .called) (r.apply config) files).noted).run.run now (world, [])
        ⟨done.value.map o.answer, done.spent, done.world⟩ :=
  have loads' : loadConfig (host.watched Milestone.called) o.config (world, []) = .ok config :=
    loads
  answer_runSuiteWith_run runner (host.watched .called) o r loads' _ now

/-- The run takes its course, which the log of a watched host tells. -/
theorem exists_course_timed :
    let span := (dispatch host { o with request := .run r }).run.run now world
    ∃ log, (watchedRun Suite.timed host o r).run.run now (world, []) =
        ⟨span.value, span.spent, (span.world, log)⟩ ∧
      Course host (r.apply config) r.scenarios Suite.Reports now world (span.value.map Prod.fst)
        log := by
  simp only [dispatch_run, watchedRun_run host o r now world loads,
    answer_runSuiteWith_run Suite.timed host o r loads]
  cases hload : ScenarioFile.loadAll host r.scenarios world with
  | error failure => exact ⟨[], rfl, .of_error hload⟩
  | ok files =>
    obtain ⟨log, hrun, course⟩ := Harness.exists_course_timed host (r.apply config).binary
      (shadows_fileSuites host (r.apply config) files) now world
    simp only [← Harness.run_eq_runBy]
    rw [hrun]
    exact ⟨log, rfl, .of_ok hload course o⟩

/-- So does the run if the tasks of its suite interleave in some way. -/
theorem course_of_isScheduler
    {runner : Suite (Watched Milestone σ) → Timed (Watched Milestone σ) SuiteReport}
    (scheduler : Suite.IsScheduler runner) :
    let done := (watchedRun runner host o r).run.run now (world, [])
    Course host (r.apply config) r.scenarios Suite.MayReport now world (done.value.map Prod.fst)
      done.world.2 := by
  simp only [watchedRun_run host o r now world loads]
  cases hload : ScenarioFile.loadAll host r.scenarios world with
  | error failure => exact .of_error hload
  | ok files =>
    exact .of_ok hload (Harness.course_of_isScheduler host (r.apply config).binary
      (shadows_fileSuites host (r.apply config) files) scheduler now world) o

omit loads in
/-- Scenarios do not remove directories. -/
theorem toScenarios_removingBy (removal : Path → σ → Except PathError Unit × σ) (session : Session)
    (config : Config) (files : List ScenarioFile) (world : σ) :
    ScenarioFile.toScenarios (Bootstrap.removingBy host removal) session config files world =
      ScenarioFile.toScenarios host session config files world := by
  induction files generalizing world with
  | nil => rfl
  | cons f rest ih =>
    have hfirst : f.toScenario (Bootstrap.removingBy host removal) session config =
        f.toScenario host session config := rfl
    have hseed : (Bootstrap.removingBy host removal).seed = host.seed := rfl
    simp only [ScenarioFile.toScenarios_cons, hfirst, hseed, ih]

/-- However a teardown ends, the run comes to the same. -/
theorem dispatch_removingBy (removal : Path → σ → Except PathError Unit × σ) :
    ((dispatch (Bootstrap.removingBy host removal)
        { o with request := .run r }).run.run now world).value =
      ((dispatch host { o with request := .run r }).run.run now world).value := by
  have hload :
      ScenarioFile.loadAll (Bootstrap.removingBy host removal) = ScenarioFile.loadAll host := rfl
  have hsuites : ∀ files, fileSuites (Bootstrap.removingBy host removal) (r.apply config) files =
      fileSuites host (r.apply config) files := fun files => by
    funext staged world
    simp only [fileSuites, ScenarioFile.toSuite, toScenarios_removingBy]
  simp only [dispatch_run, answer_runSuiteWith_run Suite.timed host o r loads,
    answer_runSuiteWith_run Suite.timed (Bootstrap.removingBy host removal) o r loads, hload,
    hsuites]
  cases ScenarioFile.loadAll host r.scenarios world with
  | error failure => rfl
  | ok files =>
    simp only [← Harness.run_eq_runBy, Harness.run_removingBy]

end

/-- Once the configuration is read, a run takes its course, and the log of a watched host tells it:
nothing is done if a file does not load, nothing follows a setup that fails, and otherwise the suite
is built once and there is one teardown, after the end of every step or the failure of the build.
This is also so if the tasks of the suite interleave in some other way. How a teardown ends makes no
difference. Whatever else may build suites, and fail, the harness goes the same way with it. -/
theorem run_takes_its_course (host : Host σ) (o : Options) (r : RunRequest) (now : Duration)
    (world : σ) {config : Config} (loads : loadConfig host o.config world = .ok config) :
    let span := (dispatch host { o with request := .run r }).run.run now world
    (∃ log, (watchedRun Suite.timed host o r).run.run now (world, []) =
        ⟨span.value, span.spent, (span.world, log)⟩ ∧
      Course host (r.apply config) r.scenarios Suite.Reports now world (span.value.map Prod.fst)
        log) ∧
    (∀ runner, Suite.IsScheduler runner →
      let done := (watchedRun runner host o r).run.run now (world, [])
      Course host (r.apply config) r.scenarios Suite.MayReport now world (done.value.map Prod.fst)
        done.world.2) ∧
    (∀ removal, ((dispatch (Bootstrap.removingBy host removal)
      { o with request := .run r }).run.run now world).value = span.value) ∧
    ∀ (binary : BinaryConfig) (makeSuite : SuiteBuilder σ),
      let done := (Harness.run host binary makeSuite).run.run now world
      ∃ log, (Harness.run (host.watched .called) binary makeSuite.lifted.noted).run.run now
          (world, []) = ⟨done.value, done.spent, (done.world, log)⟩ ∧
        Harness.Course host binary makeSuite Suite.Reports now world done.value log := by
  refine ⟨exists_course_timed host o r now world loads, fun runner scheduler =>
    course_of_isScheduler host o r now world loads scheduler, fun removal =>
    dispatch_removingBy host o r now world loads removal, fun binary makeSuite => ?_⟩
  exact Harness.exists_course_timed host binary makeSuite.shadows_lifted now world

/-- A host on which every file is a scenario of one step. -/
def oneStepHost : Host Unit :=
  { silentHost with
    readText := fun _ _ => .ok <|
      "name: up\nsteps:\n  - name: ps\n" ++
      "    actions:\n      - action: run\n        args: [ps]\n" }

def oneFile : RunRequest := ⟨[⟨"up.yaml"⟩], {}, none, none⟩

def oneFileLog : List Milestone := [
  .called (.staged (.ok ⟨"/tmp/staging"⟩)),
  .called (.linked ⟨"docker"⟩ ⟨"/tmp/staging/docker"⟩ (.ok ())),
  .building,
  .called (.spawned ⟨⟨"/tmp/staging/docker"⟩, ["ps"], some ⟨"."⟩, {}⟩ (.ok ⟨.code 0, []⟩)),
  .ended 0 0,
  .called (.removed ⟨"/tmp/staging"⟩ (.ok ()))]

theorem oneFile_takes_its_course :
    loadConfig oneStepHost none () = .ok {} ∧
      Course oneStepHost (oneFile.apply {}) oneFile.scenarios Suite.Reports .zero () (.ok 0)
        oneFileLog := by
  have loads : loadConfig oneStepHost none () = .ok {} := rfl
  have passes : ((dispatch oneStepHost ⟨none, false, .run oneFile⟩).run.run .zero ()).value.map
      Prod.fst = .ok 0 := by decide +kernel
  have noted : ((watchedRun Suite.timed oneStepHost ⟨none, false, .run oneFile⟩ oneFile).run.run
      .zero ((), [])).world.2 = oneFileLog := by decide +kernel
  obtain ⟨⟨log, told, course⟩, -⟩ :=
    run_takes_its_course oneStepHost ⟨none, false, .run oneFile⟩ oneFile .zero () loads
  obtain rfl : log = oneFileLog := by rw [← noted, told]
  exact ⟨loads, passes ▸ course⟩

end ComposeHarness.CommandLine
