import ComposeHarness.Proofs.Harness.Setup
import ComposeHarness.Proofs.Suite.Shadowed

/-!
# The course of a harness run

A harness sets up, has the suite built, runs it and tears down. If the setup fails, nothing follows.
Otherwise there is one teardown, and it comes last: after the failure of the build, or after the end
of every step. How it ends makes no difference to the result.
-/
namespace ComposeHarness

open Watched (AllOf)

variable {σ : Type}

/-- What makes the suite for a staged binary. -/
abbrev SuiteBuilder (σ : Type) := StagedBinary → σ → Except Failure (Suite σ) × σ

/-- A builder that notes when it is called, and whose suites note the ends of their steps. -/
def SuiteBuilder.noted (makeSuite : SuiteBuilder (Watched Milestone σ)) :
    SuiteBuilder (Watched Milestone σ) := fun staged world =>
  let built := makeSuite staged (world.1, world.2 ++ [.building])
  (built.1.map Suite.noted, built.2)

/-- A builder of a watched world, whose suites do not reach the log. -/
def SuiteBuilder.lifted (makeSuite : SuiteBuilder σ) : SuiteBuilder (Watched Milestone σ) :=
  fun staged world =>
    let built := makeSuite staged world.1
    (built.1.map Suite.lifted, (built.2, world.2))

/-- A builder of a watched world makes what another one makes, and leaves the log alone. -/
def SuiteBuilder.Shadows (made : SuiteBuilder (Watched Milestone σ)) (plain : SuiteBuilder σ) :
    Prop :=
  ∀ staged world past, Alike Suite.Shadows (made staged (world, past)).1 (plain staged world).1 ∧
    (made staged (world, past)).2 = ((plain staged world).2, past)

theorem SuiteBuilder.shadows_lifted (makeSuite : SuiteBuilder σ) :
    makeSuite.lifted.Shadows makeSuite := by
  intro staged world past
  refine ⟨?_, rfl⟩
  simp only [lifted]
  cases (makeSuite staged world).1 with
  | error failure => exact .error failure
  | ok suite => exact .ok suite.shadows_lifted

/-- What the run of a suite reports, as a computation. -/
def Suite.Reports (s : Suite σ) (world : σ) (report : SuiteReport) : Prop :=
  report = (s.run world).report

namespace Harness

/-! ### Harnesses that run suites in some way -/

/-- A harness whose suites are run in some way. -/
def runBy (runner : Suite σ → Timed σ SuiteReport) (host : Host σ) (config : BinaryConfig)
    (makeSuite : SuiteBuilder σ) : Act σ SuiteReport := do
  let staged ← Bootstrap.setup host config
  let outcome ← ExceptT.lift (do
    match ← Timed.ofState (makeSuite staged) with
    | .ok suite => return .ok (← runner suite)
    | .error failure => return .error failure)
  let _ ← ExceptT.lift (Timed.ofState (Bootstrap.teardown host staged))
  Act.ofExcept outcome

theorem run_eq_runBy (host : Host σ) (config : BinaryConfig) (makeSuite : SuiteBuilder σ) :
    run host config makeSuite = runBy Suite.timed host config makeSuite := rfl

theorem teardown_world (host : Host σ) (b : StagedBinary) (world : σ) :
    (Bootstrap.teardown host b world).2 = (host.removeTree b.dir world).2 := by
  unfold Bootstrap.teardown
  split <;> simp_all

/-- The four phases of a harness run, one after the other. -/
theorem runBy_run (runner : Suite σ → Timed σ SuiteReport) (host : Host σ) (config : BinaryConfig)
    (makeSuite : SuiteBuilder σ) (now : Duration) (world : σ) :
    (runBy runner host config makeSuite).run.run now world =
      let ready := (Bootstrap.setup host config).run.run now world
      match ready.value with
      | .error failure => ⟨.error failure, ready.spent, ready.world⟩
      | .ok staged =>
        let built := makeSuite staged ready.world
        match built.1 with
        | .error failure => ⟨.error failure, ready.spent, (host.removeTree staged.dir built.2).2⟩
        | .ok suite =>
          let done := (runner suite).run (now + ready.spent) built.2
          ⟨.ok done.value, ready.spent + done.spent,
            (host.removeTree staged.dir done.world).2⟩ := by
  simp only [runBy, ExceptT.run_bind, Timed.run_bind]
  obtain ⟨value, spent, next⟩ := (Bootstrap.setup host config).run.run now world
  cases value with
  | error failure => simp
  | ok staged =>
    simp only [ExceptT.run_lift, Timed.run_bind, Timed.run_map,
      Timed.run_ofState, teardown_world]
    obtain ⟨outcome, last⟩ := makeSuite staged next
    cases outcome with
    | error failure => simp
    | ok suite => simp

/-! ### The course -/

/-- How a harness run goes: what comes of it, and the milestones that it passes. `Runs` says what
the run of a suite reports. -/
inductive Course (host : Host σ) (config : BinaryConfig) (makeSuite : SuiteBuilder σ)
    (Runs : Suite σ → σ → SuiteReport → Prop) (now : Duration) (world : σ) :
    Except Failure SuiteReport → List Milestone → Prop where
  /-- The setup fails, and nothing follows. -/
  | notReady {message : String} {spent : Duration} {next : σ} {calls : List HostCall}
      (setup : (Bootstrap.setup host config).run.run now world =
        ⟨.error (.bootstrap message), spent, next⟩)
      (log : Bootstrap.SetupLog config (.error (.bootstrap message)) calls) :
      Course host config makeSuite Runs now world (.error (.bootstrap message))
        (calls.map .called)
  /-- There is no suite to run, only a binary to tear down. -/
  | notBuilt {staged : StagedBinary} {spent : Duration} {next last : σ} {calls : List HostCall}
      {failure : Failure} {outcome : Except PathError Unit}
      (setup : (Bootstrap.setup host config).run.run now world = ⟨.ok staged, spent, next⟩)
      (log : Bootstrap.SetupLog config (.ok staged) calls)
      (built : makeSuite staged next = (.error failure, last)) :
      Course host config makeSuite Runs now world (.error failure)
        (calls.map .called ++ [.building, .called (.removed staged.dir outcome)])
  /-- The suite is run to the end of every step, and then the binary is torn down. -/
  | ran {staged : StagedBinary} {spent : Duration} {next last : σ} {calls : List HostCall}
      {suite : Suite σ} {report : SuiteReport} {made : List Milestone}
      {outcome : Except PathError Unit}
      (setup : (Bootstrap.setup host config).run.run now world = ⟨.ok staged, spent, next⟩)
      (log : Bootstrap.SetupLog config (.ok staged) calls)
      (built : makeSuite staged next = (.ok suite, last)) (runs : Runs suite last report)
      (ends : suite.EndsEveryStep made) :
      Course host config makeSuite Runs now world (.ok report)
        (calls.map .called ++ .building :: (made ++ [.called (.removed staged.dir outcome)]))

section
variable (host : Host σ) (config : BinaryConfig) {made : SuiteBuilder (Watched Milestone σ)}
  {plain : SuiteBuilder σ}

theorem removeTree_watched (dir : Path) (world : Watched Milestone σ) :
    ((host.watched .called).removeTree dir world).2 =
      ((host.removeTree dir world.1).2,
        world.2 ++ [.called (.removed dir (host.removeTree dir world.1).1)]) := rfl

/-- A noted builder notes that it is called, and makes a shadow of the suite. -/
theorem noted_of_shadows (shadows : made.Shadows plain) (staged : StagedBinary) (world : σ)
    (past : List Milestone) :
    (made.noted staged (world, past)).2 = ((plain staged world).2, past ++ [.building]) ∧
      Alike (fun noted s => ∃ w, noted = Suite.noted w ∧ w.Shadows s)
        (made.noted staged (world, past)).1 (plain staged world).1 := by
  obtain ⟨halike, hworld⟩ := shadows staged world (past ++ [.building])
  refine ⟨hworld, ?_⟩
  simp only [SuiteBuilder.noted]
  generalize (made staged (world, past ++ [.building])).1 = outcome at halike ⊢
  generalize (plain staged world).1 = plainOutcome at halike ⊢
  cases halike with
  | error failure => exact .error failure
  | ok h => exact .ok ⟨_, rfl, h⟩

/-- On a watched host, a harness run comes to the same as on the host. -/
theorem run_watched (shadows : made.Shadows plain) (now : Duration) (world : σ) :
    let done := (run (host.watched .called) config made.noted).run.run now (world, [])
    let span := (run host config plain).run.run now world
    done.value = span.value ∧ done.spent = span.spent ∧ done.world.1 = span.world := by
  obtain ⟨calls, hsetup, -⟩ := Bootstrap.exists_setup_watched Milestone.called host config now
    world []
  simp only [run_eq_runBy, runBy_run, hsetup]
  obtain ⟨value, spent, next⟩ := (Bootstrap.setup host config).run.run now world
  cases value with
  | error failure => exact ⟨rfl, rfl, rfl⟩
  | ok staged =>
    obtain ⟨hworld, halike⟩ := noted_of_shadows shadows staged next ([] ++ calls.map .called)
    simp only [hworld]
    generalize made.noted staged (next, [] ++ calls.map .called) = built at halike ⊢
    obtain ⟨outcome, _⟩ := built
    generalize plain staged next = plainBuilt at halike ⊢
    obtain ⟨plainOutcome, last⟩ := plainBuilt
    cases halike with
    | error failure => exact ⟨rfl, rfl, rfl⟩
    | ok h =>
      obtain ⟨w, rfl, hshadows⟩ := h
      obtain ⟨later, hrun, -⟩ := hshadows.follows_timed (now + spent) last
        ([] ++ calls.map .called ++ [.building])
      simp only [hrun, removeTree_watched, and_self]

/-- On a watched host, and with any way of running suites to the end of every step, a harness run
takes its course. -/
theorem exists_course
    (runner : Suite (Watched Milestone σ) → Timed (Watched Milestone σ) SuiteReport)
    (Runs : Suite σ → σ → SuiteReport → Prop) (shadows : made.Shadows plain)
    (runs : ∀ w s, Suite.Shadows w s → ∀ now world past, ∃ later,
      let done := (runner w.noted).run now (world, past)
      done.world.2 = past ++ later ∧ Runs s world done.value ∧ s.EndsEveryStep later)
    (now : Duration) (world : σ) :
    let done := (runBy runner (host.watched .called) config made.noted).run.run now (world, [])
    Course host config plain Runs now world done.value done.world.2 := by
  obtain ⟨calls, hsetup, log⟩ := Bootstrap.exists_setup_watched Milestone.called host config now
    world []
  rw [List.nil_append] at hsetup
  simp only [runBy_run, hsetup]
  generalize hready : (Bootstrap.setup host config).run.run now world = ready at log
  obtain ⟨value, spent, next⟩ := ready
  cases value with
  | error failure =>
    obtain ⟨message, rfl⟩ := log.exists_message
    exact .notReady hready log
  | ok staged =>
    obtain ⟨hworld, halike⟩ := noted_of_shadows shadows staged next (calls.map .called)
    simp only [hworld]
    generalize made.noted staged (next, calls.map .called) = built at halike ⊢
    obtain ⟨outcome, _⟩ := built
    generalize hplain : plain staged next = plainBuilt at halike ⊢
    obtain ⟨plainOutcome, last⟩ := plainBuilt
    cases halike with
    | error failure =>
      simp only [removeTree_watched, List.append_assoc]
      exact .notBuilt hready log hplain
    | @ok _ s h =>
      obtain ⟨w, rfl, hshadows⟩ := h
      obtain ⟨later, hlog, hruns, ends⟩ :=
        runs w s hshadows (now + spent) last (calls.map .called ++ [.building])
      simp only [removeTree_watched, hlog, List.append_assoc]
      exact .ran hready log hplain hruns ends

/-- The run of a suite as a computation takes its course, and so does that of the harness. -/
theorem exists_course_timed (shadows : made.Shadows plain) (now : Duration) (world : σ) :
    let span := (run host config plain).run.run now world
    ∃ log, (run (host.watched .called) config made.noted).run.run now (world, []) =
        ⟨span.value, span.spent, (span.world, log)⟩ ∧
      Course host config plain Suite.Reports now world span.value log := by
  intro span
  obtain ⟨hvalue, hspent, hworld⟩ := run_watched host config shadows now world
  have hcourse := exists_course host config Suite.timed Suite.Reports shadows
    (fun w s hshadows now world past => ?_) now world
  · rw [← run_eq_runBy] at hcourse
    generalize (run (host.watched .called) config made.noted).run.run now (world, []) = done at *
    obtain ⟨value, spent, last, log⟩ := done
    dsimp only at hvalue hspent hworld hcourse
    subst hvalue hspent hworld
    exact ⟨log, rfl, hcourse⟩
  · obtain ⟨later, hrun, ends⟩ := hshadows.follows_timed now world past
    exact ⟨later, by rw [hrun], by rw [hrun]; rfl, ends⟩

/-- So does the run of the harness if the tasks of the suite interleave in some way. -/
theorem course_of_isScheduler (shadows : made.Shadows plain)
    {runner : Suite (Watched Milestone σ) → Timed (Watched Milestone σ) SuiteReport}
    (scheduler : Suite.IsScheduler runner) (now : Duration) (world : σ) :
    let done := (runBy runner (host.watched .called) config made.noted).run.run now (world, [])
    Course host config plain Suite.MayReport now world done.value done.world.2 := by
  refine exists_course host config runner Suite.MayReport shadows
    (fun w s hshadows now world past => ?_) now world
  obtain ⟨st, reach, ended, hrun⟩ := scheduler w.noted now (world, past)
  obtain ⟨later, hlog, ends⟩ := hshadows.exists_endsEveryStep reach ended
  rw [hrun]
  exact ⟨later, hlog, hshadows.mayReport reach ended, ends⟩

/-- However a teardown ends, the result of the harness is the same. -/
theorem run_removingBy (removal : Path → σ → Except PathError Unit × σ) (now : Duration)
    (world : σ) :
    ((run (Bootstrap.removingBy host removal) config plain).run.run now world).value =
      ((run host config plain).run.run now world).value := by
  obtain ⟨hvalue, hsame⟩ := Bootstrap.setup_removingBy host config removal now world
  simp only [run_eq_runBy, runBy_run]
  cases hready : ((Bootstrap.setup host config).run.run now world).value with
  | error failure => rw [hvalue, hready]
  | ok staged =>
    rw [hsame staged hready, hready]
    dsimp only
    split <;> rfl

end

end Harness
end ComposeHarness
