import ComposeHarness.Proofs.Scenario.RunningOrder
import ComposeHarness.Proofs.Suite.Turns
import ComposeHarness.Proofs.Timed.Parts

/-!
# Scenarios on their own

Where each scenario has a part of the world to itself, its report is the one that it would have on
its own: whatever the other scenarios do, however the tasks interleave, and however many of them
run at a time.
-/
namespace ComposeHarness

variable {σ τ : Type}

/-- The report of a scenario that runs alone. -/
def Scenario.aloneReport (world : σ) (s : Scenario σ) : ScenarioReport :=
  (s.run.run .zero world).value

namespace Suite

/-- The scenario at each place depends on a part of the world of its own, and leaves those of the
others as they are. -/
structure Separate (part : Nat → σ → τ) (scenarios : List (Scenario σ)) : Prop where
  own : ∀ {k : Nat} {s : Scenario σ}, scenarios[k]? = some s → ∀ step ∈ s.steps,
    (step.action s.context).DependsOn (part k)
  others : ∀ {k : Nat} {s : Scenario σ}, scenarios[k]? = some s → ∀ step ∈ s.steps, ∀ j ≠ k,
    (step.action s.context).Keeps (part j)

variable {part : Nat → σ → τ} {scenarios : List (Scenario σ)} {s : Scenario σ} {step : Step σ}
  {k : Nat}

theorem Separate.dependsOn_step (h : Separate part scenarios) (hs : scenarios[k]? = some s)
    (hstep : step ∈ s.steps) : (step.run s.context).DependsOn (part k) :=
  (h.own hs step hstep).measured.bind fun _ => Timed.dependsOn_pure _ _

theorem Separate.keeps_step (h : Separate part scenarios) (hs : scenarios[k]? = some s)
    (hstep : step ∈ s.steps) {j : Nat} (hj : j ≠ k) : (step.run s.context).Keeps (part j) :=
  (h.others hs step hstep j hj).measured.bind fun _ => Timed.keeps_pure _ _

theorem Separate.dependsOn_run (h : Separate part scenarios) (hs : scenarios[k]? = some s) :
    s.run.DependsOn (part k) := by
  have hsteps : ((Scenario.order s.steps).mapM (Step.run s.context)).DependsOn (part k) :=
    .mapM fun step hstep => h.dependsOn_step hs (Scenario.mem_putOff.1 hstep)
  exact hsteps.measured.bind fun _ => Timed.dependsOn_pure _ _

theorem Separate.keeps_run (h : Separate part scenarios) (hs : scenarios[k]? = some s) {j : Nat}
    (hj : j ≠ k) : s.run.Keeps (part j) := by
  have hsteps : ((Scenario.order s.steps).mapM (Step.run s.context)).Keeps (part j) :=
    .mapM fun step hstep => h.keeps_step hs (Scenario.mem_putOff.1 hstep) hj
  exact hsteps.measured.bind fun _ => Timed.keeps_pure _ _

/-- The report of a scenario alone depends on its part of the world only. -/
theorem Separate.aloneReport_congr (h : Separate part scenarios) (hs : scenarios[k]? = some s)
    {world world' : σ} (same : part k world = part k world') :
    s.aloneReport world = s.aloneReport world' :=
  (h.dependsOn_run hs .zero world world' same).value

/-! ### One after the other -/

theorem Separate.tail (h : Separate part (s :: scenarios)) :
    Separate (fun k => part (k + 1)) scenarios where
  own {k s'} hs := h.own (k := k + 1) (by simpa using hs)
  others {k s'} hs step hstep j hj :=
    h.others (k := k + 1) (by simpa using hs) step hstep (j + 1) (by simpa using hj)

theorem Separate.runAll (h : Separate part scenarios) {world start : σ}
    (same : ∀ k, part k world = part k start) :
    (runAll scenarios world).1 = scenarios.map (Scenario.aloneReport start) := by
  induction scenarios generalizing part world with
  | nil => rfl
  | cons s rest ih =>
    have hs : (s :: rest)[0]? = some s := rfl
    have hkept : ∀ k, part (k + 1) (s.run.run .zero world).world = part (k + 1) start := fun k =>
      (h.keeps_run hs (Nat.succ_ne_zero k) .zero world).trans (same (k + 1))
    have hrest := ih h.tail hkept
    have hfirst := h.aloneReport_congr hs (same 0)
    rw [Suite.runAll, List.map_cons, ← hfirst, ← hrest]
    rfl

/-! ### Side by side -/

/-- What has become of a task so far is what its scenario alone makes of the world. -/
def Task.AsAlone (own : σ → τ) (first now : σ) : Task σ → Prop
  | ⟨_, .waiting⟩ => own now = own first
  | ⟨s, .running start wake rest done⟩ => ∃ past,
      let span := (past.mapM (Step.run s.context)).run .zero first
      Scenario.order s.steps = past ++ rest ∧ done = span.value ∧ wake = start + span.spent ∧
        own now = own span.world
  | ⟨s, .finished _ _ report⟩ => report = s.aloneReport first

theorem Task.AsAlone.congr {own : σ → τ} {first now now' : σ} {t : Task σ}
    (h : t.AsAlone own first now) (same : own now' = own now) : t.AsAlone own first now' := by
  obtain ⟨s, phase⟩ := t
  cases phase with
  | waiting => exact same.trans h
  | running start wake rest done =>
    obtain ⟨past, horder, hdone, hwake, hown⟩ := h
    exact ⟨past, horder, hdone, hwake, same.trans hown⟩
  | finished => exact h

/-- What has become of the tasks so far is what their scenarios alone make of the world. -/
def State.AsAlone (part : Nat → σ → τ) (first : σ) (st : State σ) : Prop :=
  ∀ (k : Nat) (t : Task σ), st.tasks[k]? = some t → t.AsAlone (part k) first st.world

variable {first : σ}

/-- One task does something; it and the others keep to what their scenarios do alone. -/
theorem State.AsAlone.replace {st st' : State σ} {before after : List (Task σ)} {t t' : Task σ}
    (h : st.AsAlone part first) (tasks : st.tasks = before ++ t :: after)
    (tasks' : st'.tasks = before ++ t' :: after)
    (one : t.AsAlone (part before.length) first st.world →
      t'.AsAlone (part before.length) first st'.world)
    (others : ∀ j ≠ before.length, part j st'.world = part j st.world) :
    st'.AsAlone part first := by
  intro k x hx
  rw [tasks'] at hx
  rw [State.AsAlone, tasks] at h
  by_cases hk : k = before.length
  · subst hk
    obtain rfl := Option.some.inj (getElem?_task.symm.trans hx)
    exact one (h _ _ getElem?_task)
  · rw [getElem?_task_of_ne t t' hk] at hx
    exact (h k x hx).congr (others k hk)

theorem Task.AsAlone.mem_steps {own : σ → τ} {start wake : Duration} {rest : List (Step σ)}
    {done : List StepReport} {world : σ}
    (h : Task.AsAlone own first world ⟨s, .running start wake (step :: rest) done⟩) :
    step ∈ s.steps := by
  obtain ⟨past, horder, -⟩ := h
  exact Scenario.mem_putOff.1 (horder ▸ List.mem_append_cons_self)

/-- A running task goes on as its scenario does alone. -/
theorem Separate.act {clock start : Duration} {rest : List (Step σ)} {done : List StepReport}
    {world : σ} (h : Separate part scenarios) (hs : scenarios[k]? = some s)
    (alone : Task.AsAlone (part k) first world ⟨s, .running start clock (step :: rest) done⟩) :
    let span := (step.run s.context).run (clock - start) world
    Task.AsAlone (part k) first span.world
      ⟨s, .running start (clock + span.spent) rest (done ++ [span.value])⟩ := by
  have hstep := alone.mem_steps
  obtain ⟨past, horder, hdone, hwake, hown⟩ := alone
  have same := h.dependsOn_step hs hstep (clock - start) _ _ hown
  refine ⟨past ++ [step], by simp [horder], ?_⟩
  simp only [Timed.run_mapM_concat, Duration.zero_add]
  -- the scenario's own clock does not show how long the task has waited
  subst hwake
  rw [Duration.add_sub_cancel_left] at same ⊢
  exact ⟨by rw [hdone, same.value], by rw [same.spent, Duration.add_assoc], same.world⟩

/-- A task whose last step is over reports what its scenario reports alone. -/
theorem Task.AsAlone.finish {own : σ → τ} {clock start : Duration} {done : List StepReport}
    {world : σ} (h : Task.AsAlone own first world ⟨s, .running start clock [] done⟩) :
    Task.AsAlone own first world
      ⟨s, .finished start clock ⟨s.name, s.project.text, done, clock - start⟩⟩ := by
  obtain ⟨past, horder, hdone, hwake, -⟩ := h
  rw [List.append_nil] at horder
  subst hwake
  simp [Task.AsAlone, Scenario.aloneReport, Scenario.run_run, horder, hdone]

theorem State.AsAlone.move {st st' : State σ} (h : st.AsAlone part first)
    (separate : Separate part (st.tasks.map Task.scenario)) (m : Move st st') :
    st'.AsAlone part first := by
  cases m with
  | start takes =>
    exact h.replace rfl rfl (fun waiting => ⟨[], rfl, rfl, rfl, waiting⟩) fun _ _ => rfl
  | @act clock start free before after s step rest done collected world span ran =>
    subst ran
    have hs : ((before ++ ⟨s, .running start clock (step :: rest) done⟩ :: after).map
        Task.scenario)[before.length]? = some s := by simp
    have hstep := (h _ _ getElem?_task).mem_steps
    exact h.replace rfl rfl (separate.act hs) fun j hj =>
      separate.keeps_step hs hstep hj (clock - start) world
  | finish => exact h.replace rfl rfl Task.AsAlone.finish fun _ _ => rfl
  | collect next => exact h
  | pass idle running passed wakes => exact h

theorem State.asAlone_initial (s : Suite σ) (part : Nat → σ → τ) (world : σ) :
    (s.initial world).AsAlone part world := by
  intro k t ht
  obtain ⟨scenario, -, rfl⟩ := List.mem_map.1 (List.mem_of_getElem? ht)
  rfl

theorem Reaches.asAlone {s : Suite σ} {world : σ} {st : State σ} (h : s.Reaches world st)
    (separate : Separate part s.scenarios) : st.AsAlone part world := by
  induction h with
  | refl => exact State.asAlone_initial s part world
  | tail hbefore m ih =>
    exact ih.move (Reaches.map_scenario hbefore ▸ separate) m

/-- Whoever has finished reports what its scenario reports alone. -/
theorem State.AsAlone.report? {st : State σ} (h : st.AsAlone part first) {t : Task σ}
    (ht : t ∈ st.tasks) {report : ScenarioReport} (hreport : t.report? = some report) :
    report = t.scenario.aloneReport first := by
  obtain ⟨k, hk⟩ := List.mem_iff_getElem?.1 ht
  have halone := h k t hk
  obtain ⟨s, phase⟩ := t
  cases phase with
  | waiting => simp at hreport
  | running => simp at hreport
  | finished start finish report' =>
    cases hreport
    exact halone

/-! ### The whole report -/

/-- If all values that are found are the expected ones, so are those at the first places. -/
theorem prefix_of_forall_eq {α β : Type} {f : α → Option β} {g : α → β} {xs : List α}
    {found : List β} (h : found.map some <+: xs.map f) (expected : ∀ x ∈ xs, ∀ b ∈ f x, b = g x) :
    found <+: xs.map g := by
  induction xs generalizing found with
  | nil => simpa using h
  | cons x xs ih =>
    obtain ⟨hx, hxs⟩ := List.forall_mem_cons.1 expected
    cases found with
    | nil => exact List.nil_prefix
    | cons b found =>
      obtain ⟨hb, hfound⟩ := List.cons_prefix_cons.1 h
      exact List.cons_prefix_cons.2 ⟨hx b hb.symm, ih hfound hxs⟩

/-- The reports that a suite has collected by any moment are those of its scenarios alone. -/
theorem Reaches.collected_prefix {s : Suite σ} {world : σ} {st : State σ}
    (h : s.Reaches world st) (separate : Separate part s.scenarios) :
    st.collected <+: s.scenarios.map (Scenario.aloneReport world) := by
  have hprefix := prefix_of_forall_eq (g := fun t => t.scenario.aloneReport world)
    h.sound.collected fun t ht _ hreport => (h.asAlone separate).report? ht hreport
  rwa [← h.map_scenario, List.map_map]

theorem Separate.scenarios_run {s : Suite σ} (separate : Separate part s.scenarios) (world : σ) :
    (s.run world).report.scenarios = s.scenarios.map (Scenario.aloneReport world) :=
  separate.runAll fun _ => rfl

theorem Reaches.report_eq {s : Suite σ} {world : σ} {st : State σ} (h : s.Reaches world st)
    (separate : Separate part s.scenarios) (ended : st.Over) :
    st.report = (s.run world).report := by
  have hscenarios : st.report.scenarios = (s.run world).report.scenarios := by
    have hlength := congrArg List.length h.map_scenario
    rw [List.length_map] at hlength
    rw [separate.scenarios_run]
    exact (h.collected_prefix separate).eq_of_length (ended.trans (by rw [hlength, List.length_map]))
  have hduration : st.report.duration = (s.run world).report.duration := by
    apply Duration.ext
    rw [← h.sound.latest_eq ended, ← latest_jobs_run, h.jobs_eq ended, hscenarios, SuiteRun.jobs,
      map_starts_run]
  exact congr (congrArg SuiteReport.mk hscenarios) hduration

theorem sum_duration_steps (ctx : Context) (steps : List (Step σ)) (now : Duration) (world : σ) :
    let span := (steps.mapM (Step.run ctx)).run now world
    (span.value.map (·.duration.nanos)).sum = span.spent.nanos := by
  induction steps generalizing now world with
  | nil => rfl
  | cons step steps ih =>
    rw [Timed.run_mapM_cons]
    simp only [List.map_cons, List.sum_cons, ih, Step.run_run, Duration.nanos_add]

/-- A scenario takes as long as its steps do. -/
theorem sum_duration_aloneReport (s : Scenario σ) (world : σ) :
    ((s.aloneReport world).steps.map (·.duration.nanos)).sum =
      (s.aloneReport world).duration.nanos := by
  rw [Scenario.aloneReport, Scenario.run_run]
  exact sum_duration_steps ..

/-- The reports of a suite are those of its scenarios alone, in the order of registration, however
the tasks interleave. Nor does it matter for a report which other scenarios there are, how many may
run at a time, and what the rest of the world is like. -/
theorem scenarios_keep_to_themselves {s : Suite σ} (separate : Separate part s.scenarios)
    (world : σ) :
    (s.run world).report.scenarios = s.scenarios.map (Scenario.aloneReport world) ∧
    (∀ sc ∈ s.scenarios, ((sc.aloneReport world).steps.map (·.duration.nanos)).sum =
      (sc.aloneReport world).duration.nanos) ∧
    (∀ st, s.Reaches world st →
      st.collected <+: s.scenarios.map (Scenario.aloneReport world) ∧
      (∃ last, Relation.ReflTransGen Move st last ∧ last.Over) ∧
      (st.Over → st.report = (s.run world).report)) ∧
    ∀ (s' : Suite σ) (part' : Nat → σ → τ) (world' : σ), Separate part' s'.scenarios →
      ∀ (k k' : Nat) (sc : Scenario σ), s.scenarios[k]? = some sc → s'.scenarios[k']? = some sc →
        part k world' = part k world → ∀ st, s'.Reaches world' st → st.Over →
          st.report.scenarios[k']? = some (sc.aloneReport world) := by
  refine ⟨separate.scenarios_run world, fun sc _ => sum_duration_aloneReport sc world,
    fun st h => ⟨h.collected_prefix separate, h.sound.exists_over, h.report_eq separate⟩, ?_⟩
  intro s' part' world' separate' k k' sc hk hk' same st h ended
  rw [h.report_eq separate' ended, separate'.scenarios_run, List.getElem?_map, hk', Option.map_some,
    separate.aloneReport_congr hk same]

/-- Counts in the first half of a pair, and looks afterwards whether somebody else has. -/
def tally : Scenario (Nat × Nat) where
  name := "tally"
  session := .ofBinary ⟨"docker"⟩
  project := ⟨"tally"⟩
  steps := [
    ⟨"look", .cleanup, fun _ => do
      return if (← Timed.get).1 = 1 then .done else .failed (.config "counted twice")⟩,
    ⟨"count", .regular, fun _ => do
      Timed.modify fun world => (world.1 + 1, world.2)
      Timed.wait (.ofNanos 5)
      return .done⟩]

/-- Changes the second half of a pair and panics. -/
def disturbance : Scenario (Nat × Nat) where
  name := "disturbance"
  session := .ofBinary ⟨"docker"⟩
  project := ⟨"disturbance"⟩
  steps := [⟨"disturb", .regular, fun _ => do
    Timed.modify fun world => (world.1, world.2 + 7)
    return .panicked (.text "disturbed")⟩]

def half : Nat → Nat × Nat → Nat
  | 0, world => world.1
  | 1, world => world.2
  | _ + 2, _ => 0

def disturbedTally : Suite (Nat × Nat) where
  scenarios := [tally, disturbance]
  maxParallel := 1

theorem separate_disturbedTally : Separate half disturbedTally.scenarios := by
  have htally : ∀ step ∈ tally.steps, (step.action tally.context).DependsOn (half 0) ∧
      ∀ j ≠ 0, (step.action tally.context).Keeps (half j) := by
    intro step hstep
    rcases List.mem_pair.1 hstep with rfl | rfl
    · refine ⟨fun now world world' same => ⟨?_, rfl, same⟩, fun j _ now world => rfl⟩
      exact congrArg
        (fun n => if n = 1 then Ending.done else .failed (.config "counted twice")) same
    · refine ⟨fun now world world' same => ⟨rfl, rfl, congrArg (· + 1) same⟩, ?_⟩
      rintro (_ | _ | j) hj now world
      · exact absurd rfl hj
      · rfl
      · rfl
  have hdisturbance : ∀ step ∈ disturbance.steps,
      (step.action disturbance.context).DependsOn (half 1) ∧
        ∀ j ≠ 1, (step.action disturbance.context).Keeps (half j) := by
    intro step hstep
    obtain rfl := List.mem_singleton.1 hstep
    refine ⟨fun now world world' same => ⟨rfl, rfl, congrArg (· + 7) same⟩, ?_⟩
    rintro (_ | _ | j) hj now world
    · rfl
    · exact absurd rfl hj
    · rfl
  have hplaces : ∀ {k : Nat} {s : Scenario (Nat × Nat)}, disturbedTally.scenarios[k]? = some s →
      k = 0 ∧ s = tally ∨ k = 1 ∧ s = disturbance := by
    rintro (_ | _ | k) s hs
    · exact .inl ⟨rfl, (Option.some.inj hs).symm⟩
    · exact .inr ⟨rfl, (Option.some.inj hs).symm⟩
    · cases hs
  constructor
  · intro k s hs step hstep
    rcases hplaces hs with ⟨rfl, rfl⟩ | ⟨rfl, rfl⟩
    · exact (htally step hstep).1
    · exact (hdisturbance step hstep).1
  · intro k s hs step hstep
    rcases hplaces hs with ⟨rfl, rfl⟩ | ⟨rfl, rfl⟩
    · exact (htally step hstep).2
    · exact (hdisturbance step hstep).2

/-- The report of the tally has nothing of the disturbance. -/
theorem disturbedTally_keep_to_themselves :
    Separate half disturbedTally.scenarios ∧
      disturbedTally.scenarios.map (Scenario.aloneReport (0, 0)) = [
        ⟨"tally", "tally", [⟨"count", .regular, .passed, .ofNanos 5⟩,
          ⟨"look", .cleanup, .passed, .zero⟩], .ofNanos 5⟩,
        ⟨"disturbance", "disturbance", [⟨"disturb", .regular,
          .failed .command "step panicked: disturbed", .zero⟩], .zero⟩] ∧
      ∃ st, disturbedTally.Reaches (0, 0) st ∧ st.Over ∧
        st.report = (disturbedTally.run (0, 0)).report := by
  obtain ⟨-, -, hmoments, -⟩ := scenarios_keep_to_themselves separate_disturbedTally (0, 0)
  obtain ⟨-, ⟨last, hlast, ended⟩, -⟩ := hmoments _ .refl
  exact ⟨separate_disturbedTally, by decide, last, hlast, ended, (hmoments last hlast).2.2 ended⟩

end Suite
end ComposeHarness
