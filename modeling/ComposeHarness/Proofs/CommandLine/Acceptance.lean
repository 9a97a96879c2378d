import ComposeHarness.Proofs.CommandLine.Course
import ComposeHarness.Proofs.ScenarioFile.Binding

/-!
# What is accepted can be run

A file that loads has passed its checks, and then nothing about it can fail any more: it can be bound
to every session and configuration. So the validation of some files tells exactly whether a run
rejects one of them, and a run that has staged its binary always has a suite.
-/
namespace ComposeHarness

variable {σ : Type}

namespace ScenarioFile

theorem validate_of_parse {text : String} {f : ScenarioFile} (h : parse text = .ok f) :
    f.validate = .ok () := by
  unfold parse at h
  split at h
  · cases h
  · obtain ⟨hvalid, hf⟩ := Sequence.seq_eq_ok_iff.1 h
    cases hf
    exact hvalid

/-- A file that loads has passed its checks, which do not look at where it was read from. -/
theorem validate_of_load {host : Host σ} {path : Path} {world : σ} {f : ScenarioFile}
    (h : load host path world = .ok f) : f.validate = .ok () := by
  unfold load at h
  split at h
  · cases h
  · split at h
    · next file hparse =>
      cases h
      exact (validate_of_parse hparse : file.validate = .ok ())
    · cases h

theorem validate_of_loadAll {host : Host σ} {paths : List Path} {world : σ}
    {files : List ScenarioFile} (h : loadAll host paths world = .ok files) :
    ∀ f ∈ files, f.validate = .ok () := by
  have loaded := Sequence.mapM_eq_ok_iff.1 h
  clear h
  induction loaded with
  | nil => simp
  | cons hload _ ih => exact List.forall_mem_cons.2 ⟨validate_of_load hload, ih⟩

/-- The file at a path cannot be loaded, or it cannot be bound to some session and configuration
although it loads. -/
def Rejected (host : Host σ) (world : σ) (path : Path) : Prop :=
  (∃ failure, load host path world = .error failure) ∨
    ∃ f session config seed failure, load host path world = .ok f ∧
      f.toScenario host session config seed = .error failure

theorem not_rejected_iff {host : Host σ} {world : σ} {path : Path} :
    ¬Rejected host world path ↔ ∃ f, load host path world = .ok f := by
  unfold Rejected
  cases hload : load host path world with
  | error failure => simp
  | ok f =>
    have hbound : ¬∃ session config seed failure,
        f.toScenario host session config seed = .error failure := by
      rintro ⟨session, config, seed, failure, hfailed⟩
      obtain ⟨s, hs, -⟩ := exists_bound (validate_of_load hload) host session config seed
      cases hs.symm.trans hfailed
    simpa using hbound

/-- The scenarios of some files, each bound to a session and a configuration with a seed of its
own. -/
def AllBound (host : Host σ) (session : Session) (config : Config) :
    List ScenarioFile → List (Scenario σ) → Prop :=
  List.Forall₂ fun f s =>
    ∃ seed, f.toScenario host session config seed = .ok s ∧ Bound host f session config seed s

/-- Files that have passed their checks can all be bound. -/
theorem exists_toScenarios {files : List ScenarioFile} (h : ∀ f ∈ files, f.validate = .ok ())
    (host : Host σ) (session : Session) (config : Config) (world : σ) :
    ∃ scenarios last, toScenarios host session config files world = (.ok scenarios, last) ∧
      AllBound host session config files scenarios := by
  induction files generalizing world with
  | nil => exact ⟨[], world, rfl, .nil⟩
  | cons f rest ih =>
    obtain ⟨hf, hrest⟩ := List.forall_mem_cons.1 h
    obtain ⟨s, hs, bound⟩ := exists_bound hf host session config (host.seed world).1
    obtain ⟨scenarios, last, hscenarios, all⟩ := ih hrest (host.seed world).2
    refine ⟨s :: scenarios, last, ?_, .cons ⟨_, hs, bound⟩ all⟩
    simp only [toScenarios_cons, hs, hscenarios]
    rfl

end ScenarioFile

namespace CommandLine

open ScenarioFile (load loadAll Rejected)

/-- The exit code of a validation tells whether all files can be used. -/
theorem validate_exitCode (host : Host σ) (paths : List Path) (world : σ) :
    ((validate host paths world).1 = 0 ↔ ∀ path ∈ paths, ¬Rejected host world path) ∧
      ((validate host paths world).1 = 0 ∨ (validate host paths world).1 = 1) := by
  have hall : (paths.map fun path => (path, load host path world)).all (fun x => x.2.isOk) ↔
      ∀ path ∈ paths, ¬Rejected host world path := by
    simp only [List.all_map, List.all_eq_true, ScenarioFile.not_rejected_iff, Function.comp_def]
    refine forall₂_congr fun path _ => ?_
    cases load host path world <;> simp [Except.isOk, Except.toBool]
  rw [← hall]
  unfold validate
  dsimp only
  split <;> simp_all

/-- How a run goes whose configuration is read, after a validation of its files with this exit
code. -/
inductive GoesAfter (host : Host σ) (config : Config) (paths : List Path) (now : Duration)
    (world : σ) : Int → Span σ (Except Failure SuiteReport) → Prop where
  /-- It rejects a file while it loads it, and has done nothing. -/
  | rejected {path : Path} {failure : Failure} (mem : path ∈ paths)
      (failed : load host path world = .error failure) :
      GoesAfter host config paths now world 1 ⟨.error failure, .zero, world⟩
  /-- There is no binary for it. -/
  | notReady {message : String} {spent : Duration} {next : σ}
      (setup : (Bootstrap.setup host config.binary).run.run now world =
        ⟨.error (.bootstrap message), spent, next⟩) :
      GoesAfter host config paths now world 0 ⟨.error (.bootstrap message), spent, next⟩
  /-- It stages the binary, runs a suite that has a scenario for each file, and tears down. -/
  | ran {files : List ScenarioFile} {staged : StagedBinary} {spent : Duration} {next last : σ}
      {suite : Suite σ}
      (loads : List.Forall₂ (fun path f => load host path world = .ok f) paths files)
      (setup : (Bootstrap.setup host config.binary).run.run now world = ⟨.ok staged, spent, next⟩)
      (built : ScenarioFile.toSuite host staged.session config files next = (.ok suite, last))
      (bound : ScenarioFile.AllBound host staged.session config files suite.scenarios) :
      GoesAfter host config paths now world 0 ⟨.ok (suite.run last).report,
        spent + (suite.run last).report.duration,
        (host.removeTree staged.dir (suite.run last).world).2⟩

/-- Once its files have loaded, a run fails for want of a binary only. -/
theorem goesAfter_of_ok {host : Host σ} {config : Config} {paths : List Path} {world : σ}
    {files : List ScenarioFile} (hload : loadAll host paths world = .ok files) (now : Duration) :
    GoesAfter host config paths now world 0
      ((Harness.runBy Suite.timed host config.binary (fileSuites host config files)).run.run now
        world) := by
  rw [Harness.runBy_run]
  cases hready : (Bootstrap.setup host config.binary).run.run now world with
  | mk value spent next =>
    cases value with
    | error failure =>
      obtain ⟨message, rfl⟩ := Bootstrap.exists_message_of_setup host config.binary
        (congrArg Span.value hready)
      exact .notReady hready
    | ok staged =>
      obtain ⟨scenarios, last, hscenarios, bound⟩ := ScenarioFile.exists_toScenarios
        (ScenarioFile.validate_of_loadAll hload) host staged.session config next
      have built : ScenarioFile.toSuite host staged.session config files next =
          (.ok ⟨scenarios, config.maxParallel⟩, last) := by
        rw [ScenarioFile.toSuite, hscenarios]
        rfl
      simp only [fileSuites, built]
      exact .ran (Sequence.mapM_eq_ok_iff.1 hload) hready built bound

theorem exists_goesAfter (host : Host σ) (o : Options) (r : RunRequest) (now : Duration)
    (world : σ) {config : Config} (loads : loadConfig host o.config world = .ok config) :
    ∃ span, GoesAfter host (r.apply config) r.scenarios now world
        (validate host r.scenarios world).1 span ∧
      (dispatch host { o with request := .run r }).run.run now world =
        ⟨span.value.map o.answer, span.spent, span.world⟩ := by
  obtain ⟨hzero, hcode⟩ := validate_exitCode host r.scenarios world
  rw [dispatch_run, answer_runSuiteWith_run Suite.timed host o r loads]
  cases hload : loadAll host r.scenarios world with
  | error failure =>
    obtain ⟨before, path, after, split, -, failed⟩ := Sequence.mapM_eq_error_iff.1 hload
    have mem : path ∈ r.scenarios := by simp [split]
    have hone : (validate host r.scenarios world).1 = 1 :=
      hcode.resolve_left fun h => hzero.1 h path mem (.inl ⟨failure, failed⟩)
    rw [hone]
    exact ⟨_, .rejected mem failed, rfl⟩
  | ok files =>
    have hall : ∀ path ∈ r.scenarios, ∃ f, load host path world = .ok f :=
      Sequence.exists_mapM_eq_ok_iff.1 ⟨files, hload⟩
    rw [hzero.2 fun path hpath => ScenarioFile.not_rejected_iff.2 (hall path hpath)]
    exact ⟨_, goesAfter_of_ok hload now, rfl⟩

end CommandLine

open CommandLine ScenarioFile in
/-- A file that passes its checks can be bound to every session and configuration, and the scenario
runs and reports each definition of the file once. Each takes the course of its own actions, and
their calls are all that is done at the host. The validation of some files exits with zero exactly
if none of them is rejected, for whatever session and configuration. A run of the same files then
fails for want of a binary only, and otherwise runs a suite of all of them; if the validation exits
with one, the run rejects a file before it does anything. -/
theorem accepted_files_bind_and_run (host : Host σ) :
    (∀ f : ScenarioFile, f.validate = .ok () →
      (f.schedule.map Prod.snd).Perm f.definitions ∧
      ∀ (session : Session) (config : Config) (seed : BitVec 32),
        ∃ s, f.toScenario host session config seed = .ok s ∧
          Bound host f session config seed s ∧
          ∃ w, f.toScenario (host.watched id) session config seed = .ok w ∧ ∀ now world,
            let span := s.run.run now world
            ∃ traced : List TracedStep,
              w.run.run now (world, []) =
                ⟨span.value, span.spent, (span.world, traced.flatMap TracedStep.calls)⟩ ∧
              ReportsFile host f s now world span traced) ∧
    ∀ (o : Options) (now : Duration) (world : σ),
      (∀ paths, ∃ code text,
        (dispatch host { o with request := .validate paths }).run.run now world =
          ⟨.ok (code, text), .zero, world⟩ ∧
        (code = 0 ↔ ∀ path ∈ paths, ¬Rejected host world path) ∧ (code = 0 ∨ code = 1)) ∧
      ∀ (r : RunRequest) (config : Config), loadConfig host o.config world = .ok config →
        ∃ span, GoesAfter host (r.apply config) r.scenarios now world
            (validate host r.scenarios world).1 span ∧
          (dispatch host { o with request := .run r }).run.run now world =
            ⟨span.value.map o.answer, span.spent, span.world⟩ := by
  refine ⟨fun f valid => ⟨f.schedule_perm, fun session config seed => ?_⟩,
    fun o now world => ⟨fun paths => ?_, fun r config => exists_goesAfter host o r now world⟩⟩
  · obtain ⟨s, hs, bound⟩ := exists_bound valid host session config seed
    exact ⟨s, hs, bound, bound.exists_watched hs⟩
  · exact ⟨_, _, rfl, validate_exitCode host paths world⟩

/-- A file with a step and a cleanup that are marked as best-effort. -/
def rollout : ScenarioFile where
  name := "Rollout"
  workingDir := some ⟨"stack"⟩
  env := .ofList [("TAG", "2")]
  steps := [⟨"up", false, [.run ["compose", "up"] false none []]⟩,
    ⟨"warm", true, [.run ["compose", "pull"] false none []]⟩]
  cleanup := [⟨"down", true, [.run ["compose", "down"] false none []]⟩,
    ⟨"prune", false, [.run ["system", "prune"] false none []]⟩]
  source := ⟨"/srv/rollout.yaml"⟩

def rolloutSession : Session := ⟨⟨"docker"⟩, none, .ofList [("HOME", "/root"), ("TAG", "1")]⟩

/-- A command of the rollout, in its directory and with its variables. -/
def rolloutCall (arguments : List String) : HostCall :=
  .spawned ⟨⟨"docker"⟩, arguments, some ⟨"/srv/stack"⟩, .ofList [("HOME", "/root"), ("TAG", "2")]⟩
    (.ok ⟨.code 0, []⟩)

/-- What each step of the rollout does at a host on which every command succeeds. -/
def rolloutCalls : List (String × List HostCall) :=
  [("up", [rolloutCall ["compose", "up"]]), ("warm", [rolloutCall ["compose", "pull"]]),
    ("prune", [rolloutCall ["system", "prune"]]), ("down", [rolloutCall ["compose", "down"]])]

open CommandLine in
theorem rollout_binds_and_runs :
    (rollout.validate = .ok () ∧
      ∃ s w, ∃ traced : List TracedStep,
        rollout.toScenario oneStepHost rolloutSession {} 0 = .ok s ∧
        s.session.workingDir = some ⟨"/srv/stack"⟩ ∧
        s.session.env.get? "TAG" = some "2" ∧ s.session.env.get? "HOME" = some "/root" ∧
        (s.run.run .zero ()).value.steps.map (fun r => (r.name, r.kind)) =
          [("up", .regular), ("warm", .bestEffort), ("prune", .cleanup), ("down", .cleanup)] ∧
        rollout.toScenario (oneStepHost.watched id) rolloutSession {} 0 = .ok w ∧
        (s.run.run .zero ()).value.steps = traced.map TracedStep.report ∧
        (w.run.run .zero ((), [])).world.2 = traced.flatMap TracedStep.calls ∧
        traced.map (fun t => (t.report.name, t.calls)) = rolloutCalls) ∧
    loadConfig oneStepHost none () = .ok {} ∧
      ∃ span, GoesAfter oneStepHost (oneFile.apply {}) oneFile.scenarios .zero () 0 span ∧
        span.value.map SuiteReport.exitCode = .ok 0 := by
  have hvalid : rollout.validate = .ok () := by decide +kernel
  have hcode : (validate oneStepHost oneFile.scenarios ()).1 = 0 := by decide +kernel
  have htrace : (rollout.toScenario oneStepHost rolloutSession {} 0).map
      (fun s => (traceTurns oneStepHost s.context rollout.schedule .zero ((), [])).map
        fun t => (t.report.name, t.calls)) = .ok rolloutCalls := by decide +kernel
  obtain ⟨hfiles, hruns⟩ := accepted_files_bind_and_run oneStepHost
  obtain ⟨-, hbinds⟩ := hfiles rollout hvalid
  obtain ⟨s, hs, bound, w, hw, hreports⟩ := hbinds rolloutSession {} 0
  obtain ⟨traced, hwatched, reports⟩ := hreports .zero ()
  obtain ⟨-, hruns⟩ := hruns ⟨none, false, .run oneFile⟩ .zero ()
  obtain ⟨span, hgoes, hrun⟩ := hruns oneFile {} rfl
  rw [hcode] at hgoes
  rw [hs] at htrace
  refine ⟨⟨hvalid, s, w, traced, hs, ?_, ?_, ?_, reports.steps, hw, reports.reports,
    by rw [hwatched], ?_⟩, rfl, span, hgoes, ?_⟩
  · obtain ⟨dir, hdir, hin, -⟩ := bound.workingDir
    rw [hdir]
    cases hin with
    | absolute h => exact absurd h (by decide)
    | relative h text =>
      exact congrArg (fun text => some (Path.mk text)) (text.trans (by decide +kernel))
  · rw [bound.env]
    decide +kernel
  · rw [bound.env]
    decide +kernel
  · rw [reports.performed.eq_traceTurns]
    exact Except.ok.inj htrace
  · have passes : ((dispatch oneStepHost ⟨none, false, .run oneFile⟩).run.run .zero ()).value.map
        Prod.fst = .ok 0 := by decide +kernel
    have hanswer := (congrArg (fun span => span.value.map Prod.fst) hrun).symm.trans passes
    cases hvalue : span.value with
    | error failure => simp [hvalue, Except.map] at hanswer
    | ok report => simpa [hvalue, Except.map, Options.answer] using hanswer

end ComposeHarness
