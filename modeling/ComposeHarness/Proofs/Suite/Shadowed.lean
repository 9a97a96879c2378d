import ComposeHarness.Proofs.Suite.Endings

/-!
# Shadowed suites move alike

Whatever the tasks of a noted suite do, in whatever order, the tasks of the suite that it shadows
can do the same at the same times, with the same reports and the same effect on the world.
-/
namespace ComposeHarness.Suite

open Scenario (order placed)

variable {σ : Type}

/-- A task of a noted suite that is as far as a task of the suite itself. -/
inductive Task.Shadows : Task (Watched Milestone σ) → Task σ → Prop where
  | waiting {k : Nat} {w : Scenario (Watched Milestone σ)} {s : Scenario σ} (h : w.Shadows s) :
      Shadows ⟨w.noted k, .waiting⟩ ⟨s, .waiting⟩
  | running {k : Nat} {w : Scenario (Watched Milestone σ)} {s : Scenario σ} {start wake : Duration}
      {xs : List (Step (Watched Milestone σ) × Nat)} {rest : List (Step σ)}
      {done : List StepReport} (h : w.Shadows s)
      (steps : List.Forall₂ (fun x y => Step.Shadows x.1 y) xs rest) :
      Shadows ⟨w.noted k, .running start wake (xs.map fun x => x.1.noted k x.2) done⟩
        ⟨s, .running start wake rest done⟩
  | finished {k : Nat} {w : Scenario (Watched Milestone σ)} {s : Scenario σ}
      {start finish : Duration} {report : ScenarioReport} (h : w.Shadows s) :
      Shadows ⟨w.noted k, .finished start finish report⟩ ⟨s, .finished start finish report⟩

theorem Task.Shadows.isWaiting_eq {t : Task (Watched Milestone σ)} {plain : Task σ}
    (h : t.Shadows plain) : t.isWaiting = plain.isWaiting := by
  cases h <;> rfl

theorem Task.Shadows.wake?_eq {t : Task (Watched Milestone σ)} {plain : Task σ}
    (h : t.Shadows plain) : t.wake? = plain.wake? := by
  cases h <;> rfl

/-- A moment of the run of a noted suite that is one of the run of the suite itself. -/
structure State.Shadows (st : State (Watched Milestone σ)) (plain : State σ) : Prop where
  clock : st.clock = plain.clock
  free : st.free = plain.free
  tasks : List.Forall₂ Task.Shadows st.tasks plain.tasks
  collected : st.collected = plain.collected
  world : st.world.1 = plain.world

theorem TakesSlot.shadowed {before : List (Task (Watched Milestone σ))} {plain : List (Task σ)}
    {free left : Option Nat} (h : TakesSlot before free left)
    (tasks : List.Forall₂ Task.Shadows before plain) : TakesSlot plain free left := by
  cases h with
  | uncounted => exact .uncounted
  | counted n turn =>
    refine .counted n fun t ht => ?_
    obtain ⟨t', ht', hshadows⟩ := exists_of_mem_forall₂ tasks.flip ht
    exact hshadows.isWaiting_eq ▸ turn t' ht'

/-- A move of a noted suite is one of the suite itself. -/
theorem State.Shadows.move {st st' : State (Watched Milestone σ)} {plain : State σ}
    (h : st.Shadows plain) (m : Move st st') :
    ∃ plain', Move plain plain' ∧ st'.Shadows plain' := by
  obtain ⟨_, _, tasks, _, _⟩ := plain
  obtain ⟨rfl, rfl, htasks, rfl, rfl⟩ := h
  cases m with
  | @start clock free left before after sc collected world takes =>
    obtain ⟨before', _, after', rfl, hbefore, ht, hafter⟩ := exists_of_forall₂_append_cons htasks
    cases ht with
    | @waiting k w s hshadows =>
      have hsteps : Task.Shadows ⟨w.noted k, .running clock clock (order (w.noted k).steps) []⟩
          ⟨s, .running clock clock (order s.steps) []⟩ := by
        rw [Scenario.order_noted]
        exact .running hshadows (forall₂_placed hshadows.steps)
      exact ⟨_, .start (takes.shadowed hbefore), rfl, rfl, forall₂_replace hbefore hsteps hafter,
        rfl, rfl⟩
  | @act clock start free before after sc step rest done collected world span ran =>
    obtain ⟨before', _, after', rfl, hbefore, ht, hafter⟩ := exists_of_forall₂_append_cons htasks
    generalize hrest : step :: rest = steps at ht
    cases ht with
    | @running k w s _ _ _ _ _ hshadows hsteps =>
      obtain ⟨x, xs, rfl, rfl, rfl⟩ := List.map_eq_cons_iff.1 hrest.symm
      cases hsteps with
      | @cons _ y _ ys hx hxs =>
        have hcontext : (w.noted k).context = s.context := hshadows.context
        obtain ⟨later, hrun, -⟩ :=
          hx.follows_run k x.2 s.context (clock - start) world.1 world.2
        rw [hcontext, hrun] at ran
        subst ran
        exact ⟨_, .act rfl, rfl, rfl, forall₂_replace hbefore (.running hshadows hxs) hafter, rfl,
          rfl⟩
  | @finish clock start free before after sc done collected world =>
    obtain ⟨before', _, after', rfl, hbefore, ht, hafter⟩ := exists_of_forall₂_append_cons htasks
    generalize hrest : [] = steps at ht
    cases ht with
    | @running k w s _ _ _ _ _ hshadows hsteps =>
      obtain rfl := List.map_eq_nil_iff.1 hrest.symm
      cases hsteps with
      | nil =>
        have hname : (w.noted k).name = s.name := congrArg Context.scenario hshadows.context
        have hproject : (w.noted k).project = s.project := congrArg Context.project hshadows.context
        rw [hname, hproject]
        exact ⟨_, .finish, rfl, rfl, forall₂_replace hbefore (.finished hshadows) hafter, rfl, rfl⟩
  | @collect clock start finish free before after sc report collected world next =>
    obtain ⟨before', _, after', rfl, hbefore, ht, hafter⟩ := exists_of_forall₂_append_cons htasks
    cases ht with
    | finished hshadows =>
      exact ⟨_, .collect (hbefore.length_eq ▸ next), rfl, rfl,
        forall₂_replace hbefore (.finished hshadows) hafter, rfl, rfl⟩
  | pass idle running after wakes =>
    have hback : ∀ t ∈ tasks, ∃ t' ∈ st.tasks, Task.Shadows t' t := fun t ht =>
      exists_of_mem_forall₂ htasks.flip ht
    refine ⟨_, .pass ⟨fun t ht wake hwake => ?_, fun t ht waiting => ?_⟩ ?_ after
      fun t ht wake hwake => ?_, rfl, rfl, htasks, rfl, rfl⟩
    · obtain ⟨t', ht', hshadows⟩ := hback t ht
      exact idle.asleep t' ht' wake (hshadows.wake?_eq ▸ hwake)
    · obtain ⟨t', ht', hshadows⟩ := hback t ht
      exact idle.full t' ht' (hshadows.isWaiting_eq ▸ waiting)
    · obtain ⟨t', ht', hrunning⟩ := List.any_eq_true.1 running
      obtain ⟨t, ht, hshadows⟩ := exists_of_mem_forall₂ htasks ht'
      refine List.any_eq_true.2 ⟨t, ht, ?_⟩
      rwa [Task.isRunning, ← hshadows.wake?_eq]
    · obtain ⟨t', ht', hshadows⟩ := hback t ht
      exact wakes t' ht' wake (hshadows.wake?_eq ▸ hwake)

theorem Shadows.shadows_initial {w : Suite (Watched Milestone σ)} {s : Suite σ} (h : w.Shadows s)
    (world : σ) (past : List Milestone) :
    (w.noted.initial (world, past)).Shadows (s.initial world) where
  clock := rfl
  free := by
    have hcap : w.noted.maxParallel = s.maxParallel := h.maxParallel
    simp only [initial, hcap]
  tasks := by
    have hzip :
        List.Forall₂ (fun x y => Scenario.Shadows x.1 y) w.scenarios.zipIdx s.scenarios := by
      rw [← List.forall₂_map_left_iff, List.zipIdx_map_fst]
      exact h.scenarios
    simp only [initial, noted, List.map_map, List.forall₂_map_left_iff, List.forall₂_map_right_iff]
    exact hzip.imp fun _ _ hshadows => .waiting hshadows
  collected := rfl
  world := rfl

theorem Shadows.exists_reaches {w : Suite (Watched Milestone σ)} {s : Suite σ} (h : w.Shadows s)
    {world : σ} {past : List Milestone} {st : State (Watched Milestone σ)}
    (reach : w.noted.Reaches (world, past) st) :
    ∃ plain, s.Reaches world plain ∧ st.Shadows plain := by
  induction reach with
  | refl => exact ⟨_, .refl, h.shadows_initial world past⟩
  | tail _ m ih =>
    obtain ⟨plain, hplain, hshadows⟩ := ih
    obtain ⟨plain', m', hshadows'⟩ := hshadows.move m
    exact ⟨plain', hplain.tail m', hshadows'⟩

/-- What a suite reports if its tasks interleave in some way. -/
def MayReport (s : Suite σ) (world : σ) (report : SuiteReport) : Prop :=
  ∃ st, s.Reaches world st ∧ st.Over ∧ st.report = report

theorem Shadows.mayReport {w : Suite (Watched Milestone σ)} {s : Suite σ} (h : w.Shadows s)
    {world : σ} {past : List Milestone} {st : State (Watched Milestone σ)}
    (reach : w.noted.Reaches (world, past) st) (ended : st.Over) : s.MayReport world st.report := by
  obtain ⟨plain, hplain, hshadows⟩ := h.exists_reaches reach
  refine ⟨plain, hplain, ?_, ?_⟩
  · rw [State.Over, ← hshadows.collected, ended, hshadows.tasks.length_eq]
  · rw [State.report, State.report, hshadows.collected, hshadows.clock]

/-- A way of running suites: the tasks interleave somehow until the suite is over. -/
def IsScheduler (runner : Suite σ → Timed σ SuiteReport) : Prop :=
  ∀ (s : Suite σ) (now : Duration) (world : σ), ∃ st, s.Reaches world st ∧ st.Over ∧
    (runner s).run now world = ⟨st.report, st.clock, st.world⟩

/-- Suites can be run so, since from every moment of a run there is a way to its end. -/
theorem exists_isScheduler : ∃ runner : Suite σ → Timed σ SuiteReport, IsScheduler runner := by
  have hover : ∀ (s : Suite σ) (world : σ), ∃ st, s.Reaches world st ∧ st.Over := fun s world =>
    (sound_initial s world).exists_over
  choose last hreach hlast using hover
  exact ⟨fun s _ world => ⟨(last s world).report, (last s world).clock, (last s world).world⟩,
    fun s _ world => ⟨last s world, hreach s world, hlast s world, rfl⟩⟩

end ComposeHarness.Suite
