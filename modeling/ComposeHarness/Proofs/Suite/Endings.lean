import ComposeHarness.Bootstrap
import ComposeHarness.Proofs.Suite.Milestones
import ComposeHarness.Proofs.Suite.Moves

/-!
# Every step of a suite ends once

While a suite runs, each step of each of its scenarios ends exactly once. This is so for the run of
the suite as a computation, and for every other way in which its tasks may interleave.
-/
namespace ComposeHarness

open Scenario (order placed)
open Watched (AllOf Follows FollowsChange)

variable {σ : Type}

/-- The places of the steps of a scenario in the order in which they run. -/
def Scenario.runningOrder (s : Scenario σ) : List Nat := (placed s.steps).map (·.2)

theorem Scenario.runningOrder_perm (s : Scenario σ) :
    s.runningOrder.Perm (List.range s.size) :=
  map_snd_placed_perm s.steps

/-- The log of the run of a suite: it tells of what the steps do, and each of them ends once. -/
structure Suite.EndsEveryStep (s : Suite σ) (log : List Milestone) : Prop where
  inSuite : AllOf Milestone.InSuite log
  once : ∀ i scenario, s.scenarios[i]? = some scenario →
    (endingsOf i log).Perm (List.range scenario.size)
  others : ∀ i, s.scenarios[i]? = none → endingsOf i log = []

/-! ### One scenario -/

theorem endingsAt_append (i : Nat) (js ks : List Nat) (k : Nat) :
    endingsAt i js k ++ endingsAt i ks k = endingsAt i (js ++ ks) k := by
  unfold endingsAt
  split <;> simp

/-- A noted step does what the step does, and its end is the only one that it notes. -/
theorem Step.Shadows.follows_run {w : Step (Watched Milestone σ)} {s : Step σ} (h : w.Shadows s)
    (i j : Nat) (ctx : Context) :
    Follows (Tells (endingsAt i [j])) ((w.noted i j).run ctx) (s.run ctx) := by
  intro now world past
  obtain ⟨made, haction, hmade⟩ := h.action ctx now world past
  refine ⟨made ++ [.ended i j], ?_, ?_, fun k => ?_⟩
  · simp [Step.run_run, Step.noted, haction, h.name, h.kind]
  · refine AllOf.append (fun m hm => .reach (hmade m hm)) fun m hm => ?_
    cases List.mem_singleton.1 hm
    exact .ended i j
  · rw [endingsOf_append, endingsOf_reach k hmade, List.nil_append]
    simp only [endingsOf, endingsAt, List.filterMap_cons, List.filterMap_nil, Milestone.endedIn?]
    split <;> simp_all [eq_comm]

theorem follows_mapM_run {xs : List (Step (Watched Milestone σ) × Nat)} {ys : List (Step σ)}
    (h : List.Forall₂ (fun x y => Step.Shadows x.1 y) xs ys) (i : Nat) (ctx : Context) :
    Follows (Tells (endingsAt i (xs.map (·.2))))
      ((xs.map fun x => x.1.noted i x.2).mapM (Step.run ctx)) (ys.mapM (Step.run ctx)) := by
  induction h with
  | nil => exact Watched.follows_pure (.nil fun k => by simp [endingsAt]) _
  | @cons x y xs ys hx _ ih =>
    simp only [List.map_cons, List.mapM_cons]
    have hrest : ∀ r, Follows (Tells (endingsAt i (xs.map (·.2))))
        (do return r :: (← (xs.map fun x => x.1.noted i x.2).mapM (Step.run ctx)))
        (do return r :: (← ys.mapM (Step.run ctx))) := by
      intro r
      simpa only [bind_pure_comp] using ih.map (r :: ·)
    exact (hx.follows_run i x.2 ctx).bind hrest fun _ _ hmade hlater =>
      hmade.append hlater (endingsAt_append i [x.2] _)

/-- The steps of the shadow are put off like those of the scenario. -/
theorem forall₂_placed {ws : List (Step (Watched Milestone σ))} {ss : List (Step σ)}
    (h : List.Forall₂ Step.Shadows ws ss) :
    List.Forall₂ (fun x y => Step.Shadows x.1 y) (placed ws) (order ss) := by
  have hplaces : List.Forall₂ (fun x y => Step.Shadows x.1 y) ws.zipIdx ss := by
    rwa [← List.forall₂_map_left_iff, List.zipIdx_map_fst]
  have hkind : ∀ (x : Step (Watched Milestone σ) × Nat) (y : Step σ), Step.Shadows x.1 y →
      (Scenario.isCleanup x.1 = Scenario.isCleanup y) := fun x y hxy => by
    rw [Scenario.isCleanup, Scenario.isCleanup, hxy.kind]
  refine List.rel_append ?_ (List.rel_reverse ?_)
  · exact List.rel_filter (fun x y hxy => by simp [hkind x y hxy]) hplaces
  · exact List.rel_filter (fun x y hxy => by simp [hkind x y hxy]) hplaces

theorem Scenario.Shadows.follows_run {w : Scenario (Watched Milestone σ)} {s : Scenario σ}
    (h : w.Shadows s) (i : Nat) :
    Follows (Tells (endingsAt i w.runningOrder)) (w.noted i).run s.run := by
  have hname : (w.noted i).name = s.name := congrArg Context.scenario h.context
  have hproject : (w.noted i).project = s.project := congrArg Context.project h.context
  have hcontext : (w.noted i).context = s.context := h.context
  intro now world past
  obtain ⟨made, hrun, hmade⟩ :=
    follows_mapM_run (forall₂_placed h.steps) i s.context now world past
  refine ⟨made, ?_, hmade⟩
  simp only [Scenario.run_run, Scenario.order_noted, hcontext, hrun, hname, hproject]

/-! ### All scenarios -/

namespace Suite

/-- The endings of scenarios whose places are counted from `k` on. -/
def endingsFrom (k : Nat) (ws : List (Scenario (Watched Milestone σ))) (i : Nat) : List Nat :=
  (ws.zipIdx k).flatMap fun x => endingsAt x.2 x.1.runningOrder i

theorem endingsFrom_of_lt {k i : Nat} (h : i < k) (ws : List (Scenario (Watched Milestone σ))) :
    endingsFrom k ws i = [] := by
  refine List.flatMap_eq_nil_iff.2 fun x hx => ?_
  have hle : k ≤ x.2 := List.le_snd_of_mem_zipIdx hx
  exact if_neg (by omega)

theorem endingsFrom_add (k : Nat) (ws : List (Scenario (Watched Milestone σ))) (i : Nat) :
    endingsFrom k ws (k + i) = (ws[i]?.map Scenario.runningOrder).getD [] := by
  induction ws generalizing k i with
  | nil => rfl
  | cons w ws ih =>
    have hcons : ∀ n, endingsFrom k (w :: ws) n =
        endingsAt k w.runningOrder n ++ endingsFrom (k + 1) ws n := by
      simp [endingsFrom]
    rw [hcons]
    cases i with
    | zero => simp [endingsFrom_of_lt, endingsAt]
    | succ i =>
      have hne : k + i + 1 ≠ k := by omega
      have hrest := ih (k + 1) i
      rw [Nat.add_right_comm] at hrest
      simp [endingsAt, ← Nat.add_assoc, hne, hrest]

theorem followsChange_runAll {ws : List (Scenario (Watched Milestone σ))} {ss : List (Scenario σ)}
    (h : List.Forall₂ Scenario.Shadows ws ss) (k : Nat) :
    FollowsChange (Tells (endingsFrom k ws)) (runAll ((ws.zipIdx k).map fun x => x.1.noted x.2))
      (runAll ss) := by
  induction h generalizing k with
  | nil => exact fun world past => ⟨[], by simp [runAll], .nil fun _ => rfl⟩
  | @cons w s ws ss hw _ ih =>
    intro world past
    obtain ⟨made, hrun, hmade⟩ := hw.follows_run k .zero world past
    obtain ⟨later, hlater, hmade'⟩ := ih (k + 1) (s.run.run .zero world).world (past ++ made)
    refine ⟨made ++ later, ?_, hmade.append hmade' fun i => by simp [endingsFrom]⟩
    simp [runAll, hrun, hlater]

/-- The order in which the steps of the scenario at a place end, as they are run. -/
def orderAt (s : Suite σ) (i : Nat) : List Nat :=
  (s.scenarios[i]?.map Scenario.runningOrder).getD []

/-- Where the endings are those of the shadow, each step of the suite has ended once. -/
theorem Shadows.endsEveryStep {w : Suite (Watched Milestone σ)} {s : Suite σ} (h : w.Shadows s)
    {log : List Milestone} (tells : Tells w.orderAt log) : s.EndsEveryStep log where
  inSuite := tells.inSuite
  once i scenario hs := by
    obtain ⟨shadow, hw, hm⟩ := exists_getElem?_of_forall₂ h.scenarios hs
    have hsize : shadow.size = scenario.size := hm.steps.length_eq
    rw [tells.endings, orderAt, hw, ← hsize]
    exact shadow.runningOrder_perm
  others i hs := by
    have hlength := h.scenarios.length_eq
    rw [List.getElem?_eq_none_iff, ← hlength, ← List.getElem?_eq_none_iff] at hs
    rw [tells.endings, orderAt, hs]
    rfl

/-- The run of a noted suite does what the run of the suite does, and every step ends once. -/
theorem Shadows.follows_timed {w : Suite (Watched Milestone σ)} {s : Suite σ} (h : w.Shadows s) :
    Follows s.EndsEveryStep w.noted.timed s.timed := by
  intro now world past
  obtain ⟨made, hrun, hmade⟩ := followsChange_runAll h.scenarios 0 world past
  refine ⟨made, ?_, h.endsEveryStep ⟨hmade.inSuite, fun i => ?_⟩⟩
  · have hcap : w.noted.maxParallel = s.maxParallel := h.maxParallel
    have hscenarios : w.noted.scenarios = w.scenarios.zipIdx.map fun x => x.1.noted x.2 := rfl
    simp only [Timed.run, Suite.timed, Suite.run, hcap, hscenarios, hrun]
  · rw [hmade.endings, orderAt]
    simpa using endingsFrom_add 0 w.scenarios i

/-! ### Tasks that interleave -/

/-- How far a task has come with the noted steps of the scenario at place `k`: these have ended. -/
def Task.HasEnded (k : Nat) (w : Scenario (Watched Milestone σ)) (endings : List Nat) :
    Task (Watched Milestone σ) → Prop
  | ⟨_, .waiting⟩ => endings = []
  | ⟨_, .running _ _ rest _⟩ => ∃ past later, placed w.steps = past ++ later ∧
      rest = later.map (fun x => x.1.noted k x.2) ∧ endings = past.map (·.2)
  | ⟨_, .finished ..⟩ => endings = w.runningOrder

/-- What a task comes to if these steps of the scenario at place `k` have ended. -/
def Task.Logged (w : Suite (Watched Milestone σ)) (k : Nat) (endings : List Nat)
    (t : Task (Watched Milestone σ)) : Prop :=
  ∃ scenario, w.scenarios[k]? = some scenario ∧ t.scenario = scenario.noted k ∧
    t.HasEnded k scenario endings

/-- What the log of a suite of noted steps tells at a moment of its run. -/
structure State.Logged (w : Suite (Watched Milestone σ)) (log : List Milestone)
    (st : State (Watched Milestone σ)) : Prop where
  inSuite : AllOf Milestone.InSuite log
  tasks : ∀ (k : Nat) (t : Task _), st.tasks[k]? = some t → t.Logged w k (endingsOf k log)
  others : ∀ k, st.tasks[k]? = none → endingsOf k log = []

variable {w : Suite (Watched Milestone σ)} {s : Suite σ} {log later : List Milestone}
  {st st' : State (Watched Milestone σ)} {before after : List (Task (Watched Milestone σ))}
  {t t' : Task (Watched Milestone σ)} {js : List Nat}

/-- One task goes on, and the log tells of the ends of its steps only. -/
theorem State.Logged.replace (h : st.Logged w log) (tasks : st.tasks = before ++ t :: after)
    (tasks' : st'.tasks = before ++ t' :: after)
    (tells : Tells (endingsAt before.length js) later)
    (one : t'.Logged w before.length (endingsOf before.length log ++ js)) :
    st'.Logged w (log ++ later) where
  inSuite := h.inSuite.append tells.inSuite
  tasks k x hx := by
    rw [endingsOf_append, tells.endings, endingsAt]
    rw [tasks'] at hx
    by_cases hk : k = before.length
    · subst hk
      obtain rfl := Option.some.inj (getElem?_task.symm.trans hx)
      simpa using one
    · rw [getElem?_task_of_ne t t' hk, ← tasks] at hx
      simpa [hk] using h.tasks k x hx
  others k hk := by
    have hnone : st.tasks[k]? = none := by
      rw [List.getElem?_eq_none_iff] at hk ⊢
      simpa [tasks, tasks'] using hk
    have hne : k ≠ before.length := by
      rintro rfl
      rw [tasks, getElem?_task] at hnone
      cases hnone
    rw [endingsOf_append, tells.endings, endingsAt, if_neg hne, List.append_nil]
    exact h.others k hnone

/-- One task goes on, and nothing is logged. -/
theorem State.Logged.replace_nil (h : st.Logged w log) (tasks : st.tasks = before ++ t :: after)
    (tasks' : st'.tasks = before ++ t' :: after)
    (one : t'.Logged w before.length (endingsOf before.length log)) : st'.Logged w log := by
  have hnil : Tells (endingsAt before.length []) [] := .nil fun i => by simp [endingsAt]
  simpa using h.replace tasks tasks' hnil (by simpa using one)

/-- A noted step notes its end and nothing else but commands and requests. -/
theorem Shadows.exists_run_noted (shadows : w.Shadows s) {k : Nat}
    {scenario : Scenario (Watched Milestone σ)} (hw : w.scenarios[k]? = some scenario)
    {x : Step (Watched Milestone σ) × Nat} (hx : x ∈ placed scenario.steps) (ctx : Context)
    (now : Duration) (world : Watched Milestone σ) :
    ∃ later, (((x.1.noted k x.2).run ctx).run now world).world.2 = world.2 ++ later ∧
      Tells (endingsAt k [x.2]) later := by
  obtain ⟨plain, -, hscenario⟩ := exists_of_mem_forall₂ shadows.scenarios (List.mem_of_getElem? hw)
  have hmem := List.mem_of_getElem? (Scenario.getElem?_of_mem_placed hx)
  obtain ⟨step, -, hstep⟩ := exists_of_mem_forall₂ hscenario.steps hmem
  obtain ⟨later, hrun, tells⟩ := hstep.follows_run k x.2 ctx now world.1 world.2
  exact ⟨later, by rw [hrun], tells⟩

/-- Whatever happens next, the log goes on telling of all ends. -/
theorem State.Logged.move (h : st.Logged w log) (shadows : w.Shadows s) (m : Move st st') :
    ∃ later, st'.world.2 = st.world.2 ++ later ∧ st'.Logged w (log ++ later) := by
  cases m with
  | @start clock free left before after sc collected world takes =>
    obtain ⟨scenario, hw, ht, hended⟩ := h.tasks _ _ getElem?_task
    refine ⟨[], by simp, ?_⟩
    rw [List.append_nil]
    refine h.replace_nil rfl rfl ⟨scenario, hw, ht, [], placed scenario.steps, rfl, ?_, hended⟩
    rw [← Scenario.order_noted]
    exact congrArg (fun x => order (Scenario.steps x)) ht
  | @act clock start free before after sc step rest done collected world span ran =>
    obtain ⟨scenario, hw, ht, past, later, hplaced, hrest, hended⟩ := h.tasks _ _ getElem?_task
    obtain ⟨x, later, rfl, hx, hlater⟩ := List.map_eq_cons_iff.1 hrest.symm
    have hmem : x ∈ placed scenario.steps := by simp [hplaced]
    obtain ⟨made, hlog, tells⟩ := shadows.exists_run_noted hw hmem sc.context (clock - start) world
    rw [hx, ran] at hlog
    refine ⟨made, hlog, h.replace rfl rfl tells ⟨scenario, hw, ht, past ++ [x], later, ?_, ?_, ?_⟩⟩
    · simp [hplaced]
    · exact hlater.symm
    · simp [hended]
  | @finish clock start free before after sc done collected world =>
    obtain ⟨scenario, hw, ht, past, later, hplaced, hrest, hended⟩ := h.tasks _ _ getElem?_task
    obtain rfl := List.map_eq_nil_iff.1 hrest.symm
    refine ⟨[], by simp, ?_⟩
    rw [List.append_nil]
    refine h.replace_nil rfl rfl ⟨scenario, hw, ht, ?_⟩
    rw [List.append_nil] at hplaced
    exact hended.trans (congrArg _ hplaced.symm)
  | collect next => exact ⟨[], by simp, by simpa using ⟨h.inSuite, h.tasks, h.others⟩⟩
  | pass idle running after wakes =>
    exact ⟨[], by simp, by simpa using ⟨h.inSuite, h.tasks, h.others⟩⟩

theorem State.logged_initial (w : Suite (Watched Milestone σ)) (world : Watched Milestone σ) :
    (w.noted.initial world).Logged w [] where
  inSuite := Watched.allOf_nil _
  tasks k t ht := by
    have htask : (w.scenarios[k]?.map fun x => (⟨x.noted k, .waiting⟩ : Task _)) = some t := by
      simpa [initial, noted] using ht
    obtain ⟨scenario, hw, rfl⟩ := Option.map_eq_some_iff.1 htask
    exact ⟨scenario, hw, rfl, rfl⟩
  others _ _ := rfl

theorem Shadows.exists_logged (shadows : w.Shadows s) {world : Watched Milestone σ}
    (reach : w.noted.Reaches world st) :
    ∃ log, st.world.2 = world.2 ++ log ∧ st.Logged w log := by
  induction reach with
  | refl => exact ⟨[], by simp [initial], State.logged_initial w world⟩
  | tail _ m ih =>
    obtain ⟨log, hlog, logged⟩ := ih
    obtain ⟨later, hlater, logged'⟩ := logged.move shadows m
    exact ⟨log ++ later, by rw [hlater, hlog, List.append_assoc], logged'⟩

/-- However the tasks of a noted suite interleave, every step has ended once when it is over. -/
theorem Shadows.exists_endsEveryStep (shadows : w.Shadows s) {world : Watched Milestone σ}
    (reach : w.noted.Reaches world st) (ended : st.Over) :
    ∃ log, st.world.2 = world.2 ++ log ∧ s.EndsEveryStep log := by
  obtain ⟨log, hlog, logged⟩ := shadows.exists_logged reach
  refine ⟨log, hlog, shadows.endsEveryStep ⟨logged.inSuite, fun k => ?_⟩⟩
  cases ht : st.tasks[k]? with
  | none =>
    have hlength : st.tasks.length = w.scenarios.length := by
      simpa [noted] using congrArg List.length reach.map_scenario
    have hnone : w.scenarios[k]? = none := by
      rw [List.getElem?_eq_none_iff] at ht ⊢
      exact hlength ▸ ht
    rw [logged.others k ht, orderAt, hnone]
    rfl
  | some t =>
    obtain ⟨scenario, hw, hscenario, hended⟩ := logged.tasks k t ht
    obtain ⟨_, start, finish, report, rfl, -⟩ :=
      reach.sound.exists_finished ended (List.mem_of_getElem? ht)
    rw [orderAt, hw]
    exact hended

end Suite

end ComposeHarness
