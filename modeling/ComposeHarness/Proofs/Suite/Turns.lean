import ComposeHarness.Proofs.Schedule.Slots
import ComposeHarness.Proofs.Suite.Moves

/-!
# Scenarios take turns

However a suite runs, its scenarios take turns at the slots: each starts as early as it may. The
start times are therefore those of the schedule for the durations that the scenarios turn out to
have.
-/
namespace ComposeHarness

open Schedule (Job InTurn MayStart SharesSlots inTurn_append_singleton)

variable {σ : Type}

/-- The scenarios of a finished suite as jobs. -/
def SuiteRun.jobs (r : SuiteRun σ) : List Job :=
  Schedule.jobsOf (r.starts.map (·.nanos)) (r.report.scenarios.map (·.duration.nanos))

namespace Suite

/-! ### What started tasks may turn out to be -/

/-- The started tasks may turn out to be these jobs: a running one ends at the clock's time or
later. -/
inductive Outcome (clock : Duration) : List (Task σ) → List Job → Prop where
  | nil : Outcome clock [] []
  | waiting {s : Scenario σ} {tasks : List (Task σ)} {jobs : List Job}
      (rest : Outcome clock tasks jobs) : Outcome clock (⟨s, .waiting⟩ :: tasks) jobs
  | running {s : Scenario σ} {start wake : Duration} {steps : List (Step σ)}
      {done : List StepReport} {tasks : List (Task σ)} {job : Job} {jobs : List Job}
      (hstart : job.start = start.nanos) (hfinish : clock.nanos ≤ job.finish)
      (rest : Outcome clock tasks jobs) :
      Outcome clock (⟨s, .running start wake steps done⟩ :: tasks) (job :: jobs)
  | finished {s : Scenario σ} {start finish : Duration} {report : ScenarioReport}
      {tasks : List (Task σ)} {job : Job} {jobs : List Job} (hstart : job.start = start.nanos)
      (hfinish : job.finish = finish.nanos) (rest : Outcome clock tasks jobs) :
      Outcome clock (⟨s, .finished start finish report⟩ :: tasks) (job :: jobs)

variable {clock later : Duration} {tasks before after : List (Task σ)} {jobs : List Job}
  {cap : Nat}

theorem outcome_append_iff : Outcome clock (before ++ tasks) jobs ↔
    ∃ front rest, jobs = front ++ rest ∧ Outcome clock before front ∧ Outcome clock tasks rest := by
  constructor
  · intro h
    induction before generalizing jobs with
    | nil => exact ⟨[], jobs, rfl, .nil, h⟩
    | cons t before ih =>
      cases h with
      | waiting h =>
        obtain ⟨front, rest, rfl, hfront, hrest⟩ := ih h
        exact ⟨front, rest, rfl, .waiting hfront, hrest⟩
      | running hstart hfinish h =>
        obtain ⟨front, rest, rfl, hfront, hrest⟩ := ih h
        exact ⟨_ :: front, rest, rfl, .running hstart hfinish hfront, hrest⟩
      | finished hstart hfinish h =>
        obtain ⟨front, rest, rfl, hfront, hrest⟩ := ih h
        exact ⟨_ :: front, rest, rfl, .finished hstart hfinish hfront, hrest⟩
  · rintro ⟨front, rest, rfl, hfront, hrest⟩
    induction hfront with
    | nil => exact hrest
    | waiting _ ih => exact .waiting ih
    | running hstart hfinish _ ih => exact .running hstart hfinish ih
    | finished hstart hfinish _ ih => exact .finished hstart hfinish ih

/-- Where one task is replaced, and nothing comes of it that could not have come before. -/
theorem Outcome.replace {t t' : Task σ} (h : Outcome clock (before ++ t' :: after) jobs)
    (less : ∀ jobs, Outcome clock (t' :: after) jobs → Outcome clock (t :: after) jobs) :
    Outcome clock (before ++ t :: after) jobs := by
  obtain ⟨front, rest, rfl, hfront, hrest⟩ := outcome_append_iff.1 h
  exact outcome_append_iff.2 ⟨front, rest, rfl, hfront, less rest hrest⟩

theorem Outcome.mono (h : Outcome later tasks jobs) (le : clock ≤ later) :
    Outcome clock tasks jobs := by
  induction h with
  | nil => exact .nil
  | waiting _ ih => exact .waiting ih
  | running hstart hfinish _ ih => exact .running hstart (Nat.le_trans le hfinish) ih
  | finished hstart hfinish _ ih => exact .finished hstart hfinish ih

theorem Outcome.start_le (h : Outcome clock tasks jobs) (onTime : ∀ t ∈ tasks, t.OnTime clock) :
    ∀ j ∈ jobs, j.start ≤ clock.nanos := by
  induction h with
  | nil => simp
  | waiting _ ih => exact ih (List.forall_mem_cons.1 onTime).2
  | running hstart _ _ ih =>
    obtain ⟨ht, hrest⟩ := List.forall_mem_cons.1 onTime
    exact List.forall_mem_cons.2 ⟨hstart ▸ ht.1, ih hrest⟩
  | finished hstart _ _ ih =>
    obtain ⟨ht, hrest⟩ := List.forall_mem_cons.1 onTime
    exact List.forall_mem_cons.2 ⟨hstart ▸ Nat.le_trans ht.1 ht.2.1, ih hrest⟩

/-- Only running tasks go on after the clock's time. -/
theorem Outcome.countP_le (h : Outcome clock tasks jobs) (onTime : ∀ t ∈ tasks, t.OnTime clock) :
    jobs.countP (clock.nanos < ·.finish) ≤ tasks.countP Task.isRunning := by
  induction h with
  | nil => exact Nat.le_refl _
  | waiting _ ih => simpa using ih (List.forall_mem_cons.1 onTime).2
  | running _ _ _ ih =>
    have hrest := ih (List.forall_mem_cons.1 onTime).2
    simp only [List.countP_cons, Task.isRunning_running, if_true]
    split <;> omega
  | finished _ hfinish _ ih =>
    obtain ⟨ht, hrest⟩ := List.forall_mem_cons.1 onTime
    have hle : _ ≤ clock.nanos := ht.2.1
    simpa [hfinish, hle] using ih hrest

/-- All running tasks go on until the clock's time. -/
theorem Outcome.le_countP {time : Nat} (h : Outcome clock tasks jobs) (early : time < clock.nanos) :
    tasks.countP Task.isRunning ≤ jobs.countP (time < ·.finish) := by
  induction h with
  | nil => exact Nat.le_refl _
  | waiting _ ih => simpa using ih
  | running _ hfinish _ ih =>
    have hlt := Nat.lt_of_lt_of_le early hfinish
    simpa [List.countP_cons, hlt] using ih
  | finished _ _ _ ih =>
    simp only [List.countP_cons, Task.isRunning_finished, Bool.false_eq_true, if_false,
      Nat.add_zero]
    exact Nat.le_add_right_of_le ih

/-- Where everybody waits, nothing has come of anyone. -/
theorem Outcome.eq_nil (h : Outcome clock tasks jobs) (waiting : ∀ t ∈ tasks, t.isWaiting) :
    jobs = [] := by
  induction h with
  | nil => rfl
  | waiting _ ih => exact ih (List.forall_mem_cons.1 waiting).2
  | running => simp at waiting
  | finished => simp at waiting

/-! ### The queue -/

/-- However the running tasks end, the started ones have taken turns, and whoever waits could not
have started before. Where slots are counted, the waiting tasks queue behind the others. -/
structure Queue (cap : Nat) (st : State σ) : Prop where
  order : 0 < cap → (st.tasks.map Task.isWaiting).Pairwise (· ≤ ·)
  turns : ∀ jobs, Outcome st.clock st.tasks jobs → InTurn cap jobs
  waits : ∀ t ∈ st.tasks, t.isWaiting → ∀ jobs, Outcome st.clock st.tasks jobs →
    ∀ time < st.clock.nanos, ¬MayStart cap jobs time

/-- Nobody waits before one task, and all do after it. -/
theorem pairwise_isWaiting (hbefore : ∀ t ∈ before, t.isWaiting = false)
    (hafter : ∀ t ∈ after, t.isWaiting) (t : Task σ) :
    ((before ++ t :: after).map Task.isWaiting).Pairwise (· ≤ ·) := by
  refine List.pairwise_map.2 (List.pairwise_append.2 ⟨?_, List.pairwise_cons.2 ⟨?_, ?_⟩, ?_⟩)
  · exact List.pairwise_of_forall_mem_list fun x hx y _ => by simp [hbefore x hx]
  · exact fun y hy => by simp [hafter y hy]
  · exact List.pairwise_of_forall_mem_list fun x _ y hy => by simp [hafter y hy]
  · exact fun x hx y _ => by simp [hbefore x hx]

theorem queue_initial (s : Suite σ) (world : σ) : Queue s.maxParallel (s.initial world) := by
  have hwaiting : ∀ t ∈ (s.initial world).tasks, t.isWaiting := by
    intro t ht
    obtain ⟨scenario, -, rfl⟩ := List.mem_map.1 ht
    rfl
  refine ⟨fun _ => ?_, fun jobs h => ?_, fun t _ _ jobs _ time early => ?_⟩
  · refine List.pairwise_map.2 (List.pairwise_of_forall_mem_list fun t ht t' ht' => ?_)
    simp [hwaiting t ht, hwaiting t' ht']
  · exact h.eq_nil hwaiting ▸ Schedule.inTurn_nil _
  · exact absurd early (Nat.not_lt_zero time)

/-- Once a waiting task has started, its job is among the others. -/
theorem Outcome.of_started {s : Scenario σ} {steps : List (Step σ)}
    (h : Outcome clock (before ++ ⟨s, .running clock clock steps []⟩ :: after) jobs) :
    ∃ front job rest, jobs = front ++ job :: rest ∧ job.start = clock.nanos ∧
      Outcome clock after rest ∧
      Outcome clock (before ++ ⟨s, .waiting⟩ :: after) (front ++ rest) := by
  obtain ⟨front, rest, rfl, hfront, hrest⟩ := outcome_append_iff.1 h
  cases hrest with
  | running hstart _ hrest =>
    exact ⟨front, _, _, rfl, hstart, hrest,
      outcome_append_iff.2 ⟨front, _, rfl, hfront, .waiting hrest⟩⟩

section
variable {s : Scenario σ} {free left : Option Nat} {collected : List ScenarioReport} {world : σ}
  {steps : List (Step σ)}

/-- Whoever is behind a task that waits is waiting, too. -/
theorem Queue.waiting_after
    (h : Queue cap ⟨clock, free, before ++ ⟨s, .waiting⟩ :: after, collected, world⟩)
    (hcap : 0 < cap) : ∀ t ∈ after, t.isWaiting := by
  intro t ht
  have horder := h.order hcap
  simp only [List.map_append, List.map_cons, Task.isWaiting_waiting] at horder
  have hcons := (List.pairwise_append.1 horder).2.1
  exact Bool.eq_true_of_true_le ((List.pairwise_cons.1 hcons).1 _ (List.mem_map_of_mem ht))

/-- A task that starts on a counted slot takes its turn. -/
theorem Queue.start_of_pos
    (h : Queue cap ⟨clock, free, before ++ ⟨s, .waiting⟩ :: after, collected, world⟩)
    (sound : Sound cap ⟨clock, free, before ++ ⟨s, .waiting⟩ :: after, collected, world⟩)
    (hcap : 0 < cap) (takes : TakesSlot before free left) :
    Queue cap ⟨clock, left, before ++ ⟨s, .running clock clock steps []⟩ :: after, collected,
      world⟩ := by
  obtain ⟨counted, onTime, -, -⟩ := sound
  cases takes with
  | uncounted =>
    cases counted with
    | uncounted hzero => exact absurd hzero (Nat.ne_of_gt hcap)
  | counted n turn =>
    have hafter := h.waiting_after hcap
    refine ⟨fun _ => pairwise_isWaiting turn hafter _,
      fun jobs (outcome : Outcome clock _ jobs) => ?_,
      fun t _ _ jobs (outcome : Outcome clock _ jobs) time (early : time < clock.nanos) ready => ?_⟩
    · obtain ⟨front, job, rest, rfl, hstart, hrest, hold⟩ := outcome.of_started
      obtain rfl := hrest.eq_nil hafter
      rw [List.append_nil] at hold
      refine inTurn_append_singleton.2 ⟨h.turns front hold, hstart ▸ ⟨⟨?_, fun _ => ?_⟩, ?_⟩⟩
      · exact fun j hj => hold.start_le onTime j (List.mem_of_getLast? hj)
      · cases counted with
        | counted _ sum =>
          have hrunning := hold.countP_le onTime
          dsimp only at sum
          omega
      · exact fun time ready => Nat.le_of_not_lt fun early =>
          h.waits _ List.mem_append_cons_self rfl front hold time early ready
    · -- nobody overtakes the task that has just started
      obtain ⟨front, job, rest, rfl, hstart, hrest, -⟩ := outcome.of_started
      obtain rfl := hrest.eq_nil hafter
      have hle : job.start ≤ time := ready.previous job (by simp)
      exact absurd early (Nat.not_lt_of_le (hstart ▸ hle))

/-- A task that starts without a cap starts at once. -/
theorem Queue.start_of_zero
    (h : Queue 0 ⟨clock, free, before ++ ⟨s, .waiting⟩ :: after, collected, world⟩) :
    Queue 0 ⟨clock, left, before ++ ⟨s, .running clock clock steps []⟩ :: after, collected,
      world⟩ := by
  -- with somebody waiting no time has passed, for nobody ever lacks a slot
  have hzero : ∀ jobs, Outcome clock (before ++ ⟨s, .waiting⟩ :: after) jobs →
      clock.nanos = 0 ∧ ∀ j ∈ jobs, j.start = 0 := by
    intro jobs outcome
    have hstart : ∀ j ∈ jobs, j.start = 0 :=
      fun j hj => (h.turns jobs outcome).start_eq_zero (.inl rfl) hj
    refine ⟨?_, hstart⟩
    by_contra hne
    exact h.waits _ List.mem_append_cons_self rfl jobs outcome 0 (Nat.pos_of_ne_zero hne)
      ⟨fun j hj => (hstart j (List.mem_of_getLast? hj)).le, fun h => absurd h (Nat.lt_irrefl 0)⟩
  refine ⟨fun h => absurd h (Nat.lt_irrefl 0), fun jobs outcome => ?_,
    fun t _ _ jobs outcome time early => ?_⟩
  · obtain ⟨front, job, rest, rfl, hstart, -, hold⟩ := outcome.of_started
    obtain ⟨hclock, hothers⟩ := hzero _ hold
    refine Schedule.inTurn_of_start_eq_zero fun j hj => ?_
    rcases List.mem_append.1 hj with hj | hj
    · exact hothers j (by simp [hj])
    · rcases List.mem_cons.1 hj with rfl | hj
      · exact hstart.trans hclock
      · exact hothers j (by simp [hj])
  · obtain ⟨front, job, rest, rfl, hstart, -, hold⟩ := outcome.of_started
    exact absurd early (by simp [(hzero _ hold).1])

end

/-- A started task goes on, and the queue stays as it is. -/
theorem Queue.replace {st : State σ} {t t' : Task σ} (h : Queue cap st)
    (tasks : st.tasks = before ++ t :: after) {st' : State σ}
    (tasks' : st'.tasks = before ++ t' :: after) (sameClock : st'.clock = st.clock)
    (started : t.isWaiting = false) (started' : t'.isWaiting = false)
    (less : ∀ jobs, Outcome st.clock (t' :: after) jobs → Outcome st.clock (t :: after) jobs) :
    Queue cap st' := by
  have hless : ∀ jobs, Outcome st'.clock st'.tasks jobs → Outcome st.clock st.tasks jobs := by
    intro jobs outcome
    rw [tasks]
    rw [tasks', sameClock] at outcome
    exact outcome.replace less
  refine ⟨fun hcap => ?_, fun jobs outcome => h.turns jobs (hless jobs outcome),
    fun x hx waiting jobs outcome time early => ?_⟩
  · have horder := h.order hcap
    rw [tasks] at horder
    rw [tasks']
    simpa [started, started'] using horder
  · refine h.waits x ?_ waiting jobs (hless jobs outcome) time (sameClock ▸ early)
    rw [tasks'] at hx
    rw [tasks]
    simp only [List.mem_append, List.mem_cons] at hx ⊢
    rcases hx with hx | rfl | hx
    · exact .inl hx
    · simp [started'] at waiting
    · exact .inr (.inr hx)

theorem Queue.move {st st' : State σ} (h : Queue cap st) (sound : Sound cap st)
    (m : Move st st') : Queue cap st' := by
  cases m with
  | start takes =>
    rcases Nat.eq_zero_or_pos cap with rfl | hcap
    · exact h.start_of_zero
    · exact h.start_of_pos sound hcap takes
  | act ran =>
    refine h.replace rfl rfl rfl rfl rfl fun jobs outcome => ?_
    cases outcome with
    | running hstart hfinish rest => exact .running hstart hfinish rest
  | finish =>
    refine h.replace rfl rfl rfl rfl rfl fun jobs outcome => ?_
    cases outcome with
    | finished hstart hfinish rest => exact .running hstart hfinish.ge rest
  | collect next => exact ⟨h.order, h.turns, h.waits⟩
  | pass idle running passed wakes =>
    refine ⟨h.order, fun jobs outcome => h.turns jobs (outcome.mono (Nat.le_of_lt passed)),
      fun t ht waiting jobs outcome time early mayStart => ?_⟩
    -- a task that waits while time passes lacks a slot
    have hfull := idle.full t ht waiting
    have hcounted := sound.counted
    rw [hfull] at hcounted
    cases hcounted with
    | counted hcap sum =>
      have hslot := mayStart.slot hcap
      have hle := outcome.le_countP early
      dsimp only at hle
      omega

theorem Reaches.queue {s : Suite σ} {world : σ} {st : State σ} (h : s.Reaches world st) :
    Queue s.maxParallel st := by
  induction h with
  | refl => exact queue_initial s world
  | tail hbefore m ih => exact ih.move (Reaches.sound hbefore) m

/-! ### The end -/

/-- When the suite is over, its jobs are what came of the tasks. -/
theorem Sound.outcome {st : State σ} (h : Sound cap st) (ended : st.Over) :
    Outcome st.clock st.tasks st.jobs := by
  have hfinished : ∀ t ∈ st.tasks, ∃ s start finish report,
      t = ⟨s, .finished start finish report⟩ ∧ start ≤ finish := by
    intro t ht
    obtain ⟨s, start, finish, report, heq, hle, -⟩ := h.exists_finished ended ht
    exact ⟨s, start, finish, report, heq, hle⟩
  rw [State.jobs]
  generalize st.tasks = tasks at hfinished ⊢
  induction tasks with
  | nil => exact .nil
  | cons t tasks ih =>
    obtain ⟨⟨s, start, finish, report, rfl, hle⟩, hrest⟩ := List.forall_mem_cons.1 hfinished
    exact .finished rfl (Nat.add_sub_cancel' hle) (ih hrest)

/-- The reports of a suite that is over tell how long its jobs ran. -/
theorem Sound.map_duration {st : State σ} (h : Sound cap st) (ended : st.Over) :
    st.jobs.map Job.duration = st.report.scenarios.map (·.duration.nanos) := by
  have hreports : st.tasks.filterMap Task.report? = st.report.scenarios := by
    simpa [List.filterMap_map] using congrArg (List.filterMap id) (h.map_report? ended)
  rw [State.jobs, ← hreports, List.map_filterMap, List.map_filterMap]
  refine List.filterMap_congr fun t ht => ?_
  obtain ⟨s, start, finish, report, rfl, -, -, heq⟩ := h.exists_finished ended ht
  simp [heq]

/-- The suite is over when the last of its jobs is. -/
theorem Sound.latest_eq {st : State σ} (h : Sound cap st) (ended : st.Over) :
    Schedule.latest st.jobs = st.report.duration.nanos := by
  have hjobs : ∀ j ∈ st.jobs, j.finish ≤ st.clock.nanos := by
    intro j hj
    obtain ⟨t, ht, hjob⟩ := List.mem_filterMap.1 hj
    obtain ⟨s, start, finish, report, rfl, hle, hclock, -⟩ := h.exists_finished ended ht
    cases hjob
    rw [Job.finish, Nat.add_sub_cancel' hle]
    exact hclock
  refine Nat.le_antisymm ?_ ?_
  · rcases Nat.eq_zero_or_pos (Schedule.latest st.jobs) with hzero | hpos
    · exact hzero ▸ Nat.zero_le _
    · obtain ⟨j, hj, heq⟩ := Schedule.exists_finish_eq_latest hpos
      exact heq ▸ hjobs j hj
  · rcases h.needed with hzero | ⟨t, ht, running | ⟨s, start, report, rfl⟩⟩
    · exact (congrArg Duration.nanos hzero).le.trans (Nat.zero_le _)
    · obtain ⟨s, start, finish, report, rfl, -⟩ := h.exists_finished ended ht
      simp at running
    · have hjob := Schedule.finish_le_latest
        (List.mem_filterMap.2 ⟨_, ht, Task.job?_finished s start st.clock report⟩)
      exact hjob.trans' (Nat.sub_le_iff_le_add'.1 (Nat.le_refl _))

/-- The jobs of a suite that is over are those of the schedule for the durations in its reports. -/
theorem Reaches.jobs_eq {s : Suite σ} {world : σ} {st : State σ} (h : s.Reaches world st)
    (ended : st.Over) :
    let durations := st.report.scenarios.map (·.duration.nanos)
    st.jobs = Schedule.jobsOf (Schedule.starts s.maxParallel durations) durations := by
  intro durations
  refine (h.queue.turns st.jobs (h.sound.outcome ended)).eq_of_durations
    (Schedule.inTurn_starts s.maxParallel durations) ?_
  rw [h.sound.map_duration ended, Schedule.map_duration_jobsOf (Schedule.length_starts ..)]

/-! ### The scenarios of a run -/

theorem length_runAll (scenarios : List (Scenario σ)) (world : σ) :
    (runAll scenarios world).1.length = scenarios.length := by
  induction scenarios generalizing world with
  | nil => rfl
  | cons s rest ih => simp [runAll, ih]

theorem map_starts_run (s : Suite σ) (world : σ) :
    (s.run world).starts.map (·.nanos) = Schedule.starts s.maxParallel
      ((s.run world).report.scenarios.map (·.duration.nanos)) := by
  simp [run, Function.comp_def]

theorem length_map_starts_run (s : Suite σ) (world : σ) :
    ((s.run world).starts.map (·.nanos)).length =
      ((s.run world).report.scenarios.map (·.duration.nanos)).length := by
  rw [map_starts_run, Schedule.length_starts]

theorem length_jobs_run (s : Suite σ) (world : σ) : (s.run world).jobs.length = s.size := by
  rw [← List.length_map (f := Job.duration), SuiteRun.jobs,
    Schedule.map_duration_jobsOf (length_map_starts_run s world), List.length_map]
  exact length_runAll s.scenarios world

theorem latest_jobs_run (s : Suite σ) (world : σ) :
    Schedule.latest (s.run world).jobs = (s.run world).report.duration.nanos := by
  rw [SuiteRun.jobs, map_starts_run, ← Schedule.makespan_eq_latest]
  rfl

theorem sharesSlots_run (s : Suite σ) (world : σ) : SharesSlots s.maxParallel (s.run world).jobs
    (s.run world).report.duration.nanos := by
  have hturns : InTurn s.maxParallel (s.run world).jobs := by
    rw [SuiteRun.jobs, map_starts_run]
    exact Schedule.inTurn_starts _ _
  exact latest_jobs_run s world ▸ hturns.sharesSlots

/-- The scenarios of a suite take turns at its slots. This is so by the report of the suite, and
also however its tasks interleave: at every moment no more of them run than there are slots, and
the run can be brought to its end, where the start times are those of the schedule for the
durations of the reports. -/
theorem scenarios_take_turns (s : Suite σ) (world : σ) :
    let r := s.run world
    (r.jobs.length = s.size ∧ r.jobs.map Job.start = r.starts.map (·.nanos) ∧
      r.jobs.map Job.duration = r.report.scenarios.map (·.duration.nanos) ∧
      SharesSlots s.maxParallel r.jobs r.report.duration.nanos) ∧
    ∀ st, s.Reaches world st →
      (0 < s.maxParallel → st.tasks.countP Task.isRunning ≤ s.maxParallel) ∧
      (∃ last, Relation.ReflTransGen Move st last ∧ last.Over) ∧
      (st.Over →
        st.jobs.length = s.size ∧
        st.jobs.map Job.start = Schedule.starts s.maxParallel (st.jobs.map Job.duration) ∧
        st.jobs.map Job.duration = st.report.scenarios.map (·.duration.nanos) ∧
        SharesSlots s.maxParallel st.jobs st.report.duration.nanos) := by
  intro r
  have hlength := length_map_starts_run s world
  refine ⟨⟨length_jobs_run s world, Schedule.map_start_jobsOf hlength,
    Schedule.map_duration_jobsOf hlength, sharesSlots_run s world⟩, fun st h => ?_⟩
  have sound := h.sound
  refine ⟨sound.counted.le, sound.exists_over, fun ended => ⟨?_, ?_, sound.map_duration ended, ?_⟩⟩
  · have hreports := congrArg List.length (sound.map_report? ended)
    have hjobs := congrArg List.length (sound.map_duration ended)
    have hscenarios := congrArg List.length h.map_scenario
    simp only [List.length_map] at hreports hjobs hscenarios
    rw [hjobs, ← hreports, hscenarios, size]
  · rw [sound.map_duration ended, h.jobs_eq ended]
    exact Schedule.map_start_jobsOf (Schedule.length_starts ..)
  · rw [← sound.latest_eq ended]
    exact (h.queue.turns st.jobs (sound.outcome ended)).sharesSlots

/-- A scenario that only takes its time. -/
def sleeper (name : String) (time : Duration) : Scenario Unit where
  name := name
  session := .ofBinary ⟨"docker"⟩
  project := ⟨name⟩
  steps := [⟨"sleep", .regular, fun _ => do
    Timed.wait time
    return .done⟩]

/-- Three scenarios on two slots. -/
def sleepers : Suite Unit where
  scenarios := [sleeper "up" (.ofNanos 3), sleeper "build" (.ofNanos 2),
    sleeper "volume" (.ofNanos 4)]
  maxParallel := 2

/-- The third of them starts when the second ends. -/
theorem sleepers_take_turns :
    (sleepers.run ()).jobs = [⟨0, 3⟩, ⟨0, 2⟩, ⟨2, 4⟩] ∧
      (sleepers.run ()).report.duration = .ofNanos 6 ∧
      SharesSlots 2 (sleepers.run ()).jobs 6 ∧
      ∃ st, sleepers.Reaches () st ∧ st.Over ∧ SharesSlots 2 st.jobs st.report.duration.nanos := by
  obtain ⟨⟨-, -, -, hshares⟩, hmoments⟩ := scenarios_take_turns sleepers ()
  obtain ⟨-, ⟨last, hlast, ended⟩, -⟩ := hmoments _ .refl
  exact ⟨by decide, by decide, hshares, last, hlast, ended, ((hmoments last hlast).2.2 ended).2.2.2⟩

end Suite
end ComposeHarness
