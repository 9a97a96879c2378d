import Mathlib.Algebra.Order.BigOperators.Group.List
import Mathlib.Data.Prod.Lex
import Mathlib.Logic.Relation
import ComposeHarness.Proofs.Schedule.Turns

/-!
# A suite while it runs

Each scenario of a suite has a task. The task waits for a slot, runs the steps of its scenario one
after the other, and gives the slot back. A step changes the world at once and then lasts for the
time that it takes. The suite collects the reports in the order of registration. `Move` says what
can happen next. What can happen at the same time happens in any order, and time passes only while
there is nothing else to do than to wait for running steps.
-/
namespace ComposeHarness.Suite

open Schedule (Job)

variable {σ : Type}

/-- How far the task of a scenario is. -/
inductive Phase (σ : Type) where
  | waiting
  /-- The task has a slot since `start`. Its latest step lasts until `wake`, and the steps of `rest`
  come after it. -/
  | running (start wake : Duration) (rest : List (Step σ)) (done : List StepReport)
  | finished (start finish : Duration) (report : ScenarioReport)

structure Task (σ : Type) where
  scenario : Scenario σ
  phase : Phase σ

namespace Task

def isWaiting : Task σ → Bool
  | ⟨_, .waiting⟩ => true
  | ⟨_, .running ..⟩ => false
  | ⟨_, .finished ..⟩ => false

/-- Until when a running task sleeps. -/
def wake? : Task σ → Option Duration
  | ⟨_, .waiting⟩ => none
  | ⟨_, .running _ wake _ _⟩ => some wake
  | ⟨_, .finished ..⟩ => none

def isRunning (t : Task σ) : Bool := t.wake?.isSome

def report? : Task σ → Option ScenarioReport
  | ⟨_, .waiting⟩ => none
  | ⟨_, .running ..⟩ => none
  | ⟨_, .finished _ _ report⟩ => some report

/-- A finished task as a job. -/
def job? : Task σ → Option Job
  | ⟨_, .waiting⟩ => none
  | ⟨_, .running ..⟩ => none
  | ⟨_, .finished start finish _⟩ => some ⟨start.nanos, finish.nanos - start.nanos⟩

section
variable (s : Scenario σ) (start wake finish : Duration) (rest : List (Step σ))
  (done : List StepReport) (report : ScenarioReport)

@[simp] theorem isWaiting_waiting : isWaiting ⟨s, .waiting⟩ = true := rfl
@[simp] theorem isWaiting_running : isWaiting ⟨s, .running start wake rest done⟩ = false := rfl
@[simp] theorem isWaiting_finished : isWaiting ⟨s, .finished start finish report⟩ = false := rfl
@[simp] theorem wake?_waiting : wake? ⟨s, .waiting⟩ = none := rfl
@[simp] theorem wake?_running : wake? ⟨s, .running start wake rest done⟩ = some wake := rfl
@[simp] theorem wake?_finished : wake? ⟨s, .finished start finish report⟩ = none := rfl
@[simp] theorem isRunning_waiting : isRunning ⟨s, .waiting⟩ = false := rfl
@[simp] theorem isRunning_running : isRunning ⟨s, .running start wake rest done⟩ = true := rfl
@[simp] theorem isRunning_finished : isRunning ⟨s, .finished start finish report⟩ = false := rfl
@[simp] theorem report?_waiting : report? ⟨s, .waiting⟩ = none := rfl
@[simp] theorem report?_running : report? ⟨s, .running start wake rest done⟩ = none := rfl
@[simp] theorem report?_finished : report? ⟨s, .finished start finish report⟩ = some report := rfl
@[simp] theorem job?_waiting : job? ⟨s, .waiting⟩ = none := rfl
@[simp] theorem job?_running : job? ⟨s, .running start wake rest done⟩ = none := rfl
@[simp] theorem job?_finished : job? ⟨s, .finished start finish report⟩ =
    some ⟨start.nanos, finish.nanos - start.nanos⟩ := rfl

end

end Task

/-- A suite at one moment of its run. -/
structure State (σ : Type) where
  /-- The time since the start of the suite. -/
  clock : Duration
  /-- How many slots are left, if they are counted. -/
  free : Option Nat
  /-- The tasks in the order of registration. -/
  tasks : List (Task σ)
  collected : List ScenarioReport
  world : σ

namespace State

/-- The suite has collected all reports. -/
def Over (st : State σ) : Prop := st.collected.length = st.tasks.length

def report (st : State σ) : SuiteReport := ⟨st.collected, st.clock⟩

def jobs (st : State σ) : List Job := st.tasks.filterMap Task.job?

/-- Nothing can be done at this moment: every running task sleeps, and every waiting one lacks a
slot. -/
structure Idle (st : State σ) : Prop where
  asleep : ∀ t ∈ st.tasks, ∀ wake ∈ t.wake?, st.clock < wake
  full : ∀ t ∈ st.tasks, t.isWaiting → st.free = some 0

end State

/-- A task takes a slot after those of `before`. Slots that are counted go to the tasks in the order
of registration. -/
inductive TakesSlot (before : List (Task σ)) : Option Nat → Option Nat → Prop where
  | uncounted : TakesSlot before none none
  | counted (n : Nat) (turn : ∀ t ∈ before, t.isWaiting = false) :
      TakesSlot before (some (n + 1)) (some n)

/-- What can happen next. -/
inductive Move : State σ → State σ → Prop where
  /-- A task gets a slot. The time of its scenario starts now. -/
  | start {clock : Duration} {free left : Option Nat} {before after : List (Task σ)}
      {s : Scenario σ} {collected : List ScenarioReport} {world : σ}
      (takes : TakesSlot before free left) :
      Move ⟨clock, free, before ++ ⟨s, .waiting⟩ :: after, collected, world⟩
        ⟨clock, left, before ++ ⟨s, .running clock clock (Scenario.order s.steps) []⟩ :: after,
          collected, world⟩
  /-- A task whose latest step is over runs the next one. -/
  | act {clock start : Duration} {free : Option Nat} {before after : List (Task σ)}
      {s : Scenario σ} {step : Step σ} {rest : List (Step σ)} {done : List StepReport}
      {collected : List ScenarioReport} {world : σ} {span : Span σ StepReport}
      (ran : (step.run s.context).run (clock - start) world = span) :
      Move ⟨clock, free, before ++ ⟨s, .running start clock (step :: rest) done⟩ :: after,
          collected, world⟩
        ⟨clock, free,
          before ++ ⟨s, .running start (clock + span.spent) rest (done ++ [span.value])⟩ :: after,
          collected, span.world⟩
  /-- A task whose last step is over gives the slot back and reports its scenario. -/
  | finish {clock start : Duration} {free : Option Nat} {before after : List (Task σ)}
      {s : Scenario σ} {done : List StepReport} {collected : List ScenarioReport} {world : σ} :
      Move ⟨clock, free, before ++ ⟨s, .running start clock [] done⟩ :: after, collected, world⟩
        ⟨clock, free.map (· + 1),
          before ++ ⟨s, .finished start clock ⟨s.name, s.project.text, done, clock - start⟩⟩ ::
            after,
          collected, world⟩
  /-- The suite collects the next report. -/
  | collect {clock start finish : Duration} {free : Option Nat} {before after : List (Task σ)}
      {s : Scenario σ} {report : ScenarioReport} {collected : List ScenarioReport} {world : σ}
      (next : before.length = collected.length) :
      Move ⟨clock, free, before ++ ⟨s, .finished start finish report⟩ :: after, collected, world⟩
        ⟨clock, free, before ++ ⟨s, .finished start finish report⟩ :: after,
          collected ++ [report], world⟩
  /-- Time passes, until a running task wakes up or for less. -/
  | pass {st : State σ} {later : Duration} (idle : st.Idle) (running : st.tasks.any Task.isRunning)
      (after : st.clock < later) (wakes : ∀ t ∈ st.tasks, ∀ wake ∈ t.wake?, later ≤ wake) :
      Move st { st with clock := later }

/-- The suite before anything has happened. Slots are counted if there is a cap. -/
def initial (s : Suite σ) (world : σ) : State σ :=
  ⟨.zero, if s.maxParallel = 0 then none else some s.maxParallel, s.scenarios.map (⟨·, .waiting⟩),
    [], world⟩

/-- The moments that the run of a suite can come to. -/
def Reaches (s : Suite σ) (world : σ) : State σ → Prop :=
  Relation.ReflTransGen Move (s.initial world)

/-! ### What every move keeps -/

/-- The times of a task fit the clock. -/
def Task.OnTime (clock : Duration) : Task σ → Prop
  | ⟨_, .waiting⟩ => True
  | ⟨_, .running start wake _ _⟩ => start ≤ clock ∧ clock ≤ wake
  | ⟨_, .finished start finish report⟩ =>
    start ≤ finish ∧ finish ≤ clock ∧ report.duration = finish - start

/-- The slots that are left and those that are taken make up the cap. -/
inductive Counted (cap : Nat) (tasks : List (Task σ)) : Option Nat → Prop where
  | uncounted (h : cap = 0) : Counted cap tasks none
  | counted {n : Nat} (h : 0 < cap) (sum : tasks.countP Task.isRunning + n = cap) :
      Counted cap tasks (some n)

/-- What holds of the run of a suite at every moment. -/
structure Sound (cap : Nat) (st : State σ) : Prop where
  counted : Counted cap st.tasks st.free
  onTime : ∀ t ∈ st.tasks, t.OnTime st.clock
  collected : st.collected.map some <+: st.tasks.map Task.report?
  /-- Time has passed only for the sake of a task. -/
  needed : st.clock = .zero ∨ ∃ t ∈ st.tasks, t.isRunning ∨
    ∃ s start report, t = ⟨s, .finished start st.clock report⟩

/-- One task among others, as a predicate counts it. -/
theorem countP_task (p : Task σ → Bool) (before after : List (Task σ)) (t : Task σ) :
    (before ++ t :: after).countP p =
      before.countP p + after.countP p + if p t then 1 else 0 := by
  rw [List.countP_append, List.countP_cons]
  omega

theorem Counted.start {cap : Nat} {before after : List (Task σ)} {s : Scenario σ}
    {free left : Option Nat} {start wake : Duration} {rest : List (Step σ)}
    {done : List StepReport} (h : Counted cap (before ++ ⟨s, .waiting⟩ :: after) free)
    (takes : TakesSlot before free left) :
    Counted cap (before ++ ⟨s, .running start wake rest done⟩ :: after) left := by
  cases takes with
  | uncounted =>
    cases h with
    | uncounted hcap => exact .uncounted hcap
  | counted n turn =>
    cases h with
    | counted hcap sum =>
      refine .counted hcap ?_
      simp only [countP_task, Task.isRunning_waiting, Task.isRunning_running, Bool.false_eq_true,
        if_false, if_true] at sum ⊢
      omega

theorem Counted.finish {cap : Nat} {before after : List (Task σ)} {s : Scenario σ}
    {free : Option Nat} {start wake begun finish : Duration} {rest : List (Step σ)}
    {done : List StepReport} {report : ScenarioReport}
    (h : Counted cap (before ++ ⟨s, .running start wake rest done⟩ :: after) free) :
    Counted cap (before ++ ⟨s, .finished begun finish report⟩ :: after) (free.map (· + 1)) := by
  cases h with
  | uncounted hcap => exact .uncounted hcap
  | counted hcap sum =>
    refine .counted hcap ?_
    simp only [countP_task, Task.isRunning_running, Task.isRunning_finished, Bool.false_eq_true,
      if_false, if_true] at sum ⊢
    omega

theorem Counted.congr {cap : Nat} {tasks others : List (Task σ)} {free : Option Nat}
    (h : Counted cap tasks free)
    (same : others.countP Task.isRunning = tasks.countP Task.isRunning) :
    Counted cap others free := by
  cases h with
  | uncounted hcap => exact .uncounted hcap
  | counted hcap sum => exact .counted hcap (same ▸ sum)

/-- No more tasks run than there are slots. -/
theorem Counted.le {cap : Nat} {tasks : List (Task σ)} {free : Option Nat}
    (h : Counted cap tasks free) (hcap : 0 < cap) : tasks.countP Task.isRunning ≤ cap := by
  cases h with
  | uncounted hzero => exact absurd hzero (Nat.ne_of_gt hcap)
  | counted _ sum => exact sum ▸ Nat.le_add_right ..

/-- Collected reports are those of other tasks than one without a report. -/
theorem prefix_of_report_eq_none {collected : List ScenarioReport} {before after : List (Task σ)}
    {t : Task σ} (ht : t.report? = none)
    (h : collected.map some <+: (before ++ t :: after).map Task.report?) :
    collected.map some <+: before.map Task.report? := by
  rw [List.map_append, List.map_cons, ht] at h
  rcases List.prefix_or_prefix_of_prefix h (List.prefix_append ..) with h' | ⟨tail, htail⟩
  · exact h'
  · rw [← htail, List.prefix_append_right_inj] at h
    cases tail with
    | nil => simp [← htail]
    | cons x tail =>
      obtain ⟨rfl, -⟩ := List.cons_prefix_cons.1 h
      have : none ∈ collected.map some := htail ▸ (by simp)
      simp at this

/-- The report of the next task goes to the end of those that are collected. -/
theorem append_report_prefix {collected : List ScenarioReport} {before after : List (Task σ)}
    {s : Scenario σ} {start finish : Duration} {report : ScenarioReport}
    (h : collected.map some <+:
      (before ++ ⟨s, .finished start finish report⟩ :: after).map Task.report?)
    (next : before.length = collected.length) :
    (collected ++ [report]).map some <+:
      (before ++ ⟨s, .finished start finish report⟩ :: after).map Task.report? := by
  rw [List.map_append, List.map_cons] at h ⊢
  have hbefore : collected.map some = before.map Task.report? :=
    (List.prefix_of_prefix_length_le h (List.prefix_append ..) (by simp [next])).eq_of_length
      (by simp [next])
  simp [hbefore]

theorem Task.OnTime.pass {clock later : Duration} {t : Task σ} (h : t.OnTime clock)
    (le : clock ≤ later) (wakes : ∀ wake ∈ t.wake?, later ≤ wake) : t.OnTime later := by
  obtain ⟨s, phase⟩ := t
  cases phase with
  | waiting => trivial
  | running start wake rest done => exact ⟨Nat.le_trans h.1 le, wakes wake rfl⟩
  | finished start finish report => exact ⟨h.1, Nat.le_trans h.2.1 le, h.2.2⟩

theorem getElem?_task {before after : List (Task σ)} {t : Task σ} :
    (before ++ t :: after)[before.length]? = some t := by
  simp

/-- Where one task is replaced, the others stay at their places. -/
theorem getElem?_task_of_ne {before after : List (Task σ)} {k : Nat} (t t' : Task σ)
    (hk : k ≠ before.length) : (before ++ t' :: after)[k]? = (before ++ t :: after)[k]? := by
  rcases Nat.lt_or_gt_of_ne hk with hlt | hgt
  · rw [List.getElem?_append_left hlt, List.getElem?_append_left hlt]
  · obtain ⟨i, hi⟩ := Nat.exists_eq_add_of_lt hgt
    simp [hi, List.getElem?_append_right, Nat.add_assoc]

/-- To speak of all tasks is to speak of one of them and of the others. -/
theorem forall_mem_task {p : Task σ → Prop} {before after : List (Task σ)} {t : Task σ} :
    (∀ x ∈ before ++ t :: after, p x) ↔ (∀ x ∈ before, p x) ∧ p t ∧ ∀ x ∈ after, p x := by
  simp only [List.forall_mem_append, List.forall_mem_cons]

theorem Sound.move {cap : Nat} {st st' : State σ} (h : Sound cap st) (m : Move st st') :
    Sound cap st' := by
  obtain ⟨counted, onTime, collected, needed⟩ := h
  cases m with
  | start takes =>
    obtain ⟨hbefore, -, hafter⟩ := forall_mem_task.1 onTime
    refine ⟨counted.start takes, ?_, ?_, ?_⟩
    · exact forall_mem_task.2 ⟨hbefore, ⟨Nat.le_refl _, Nat.le_refl _⟩, hafter⟩
    · exact (prefix_of_report_eq_none rfl collected).trans (by simp)
    · exact .inr ⟨_, List.mem_append_cons_self, .inl rfl⟩
  | act ran =>
    obtain ⟨hbefore, ht, hafter⟩ := forall_mem_task.1 onTime
    refine ⟨counted.congr (by simp only [countP_task, Task.isRunning_running]), ?_, ?_, ?_⟩
    · exact forall_mem_task.2 ⟨hbefore, ⟨ht.1, Nat.le_add_right ..⟩, hafter⟩
    · exact (prefix_of_report_eq_none rfl collected).trans (by simp)
    · exact .inr ⟨_, List.mem_append_cons_self, .inl rfl⟩
  | finish =>
    obtain ⟨hbefore, ht, hafter⟩ := forall_mem_task.1 onTime
    refine ⟨counted.finish, ?_, ?_, ?_⟩
    · exact forall_mem_task.2 ⟨hbefore, ⟨ht.1, Nat.le_refl _, rfl⟩, hafter⟩
    · exact (prefix_of_report_eq_none rfl collected).trans (by simp)
    · exact .inr ⟨_, List.mem_append_cons_self, .inr ⟨_, _, _, rfl⟩⟩
  | collect next =>
    exact ⟨counted, onTime, append_report_prefix collected next, needed⟩
  | pass idle running after wakes =>
    have hlater : ∀ t ∈ st.tasks, t.OnTime _ :=
      fun t ht => (onTime t ht).pass (Nat.le_of_lt after) (wakes t ht)
    refine ⟨counted, hlater, collected, ?_⟩
    obtain ⟨t, ht, hrun⟩ := List.any_eq_true.1 running
    exact .inr ⟨t, ht, .inl hrun⟩

theorem sound_initial (s : Suite σ) (world : σ) : Sound s.maxParallel (s.initial world) := by
  refine ⟨?_, ?_, List.nil_prefix, .inl rfl⟩
  · by_cases hcap : s.maxParallel = 0
    · simp only [initial, hcap, if_true]
      exact .uncounted rfl
    · simp only [initial, hcap, if_false]
      refine .counted (Nat.pos_of_ne_zero hcap) ?_
      have : (s.scenarios.map (⟨·, Phase.waiting⟩)).countP Task.isRunning = 0 := by
        simp [List.countP_eq_zero]
      omega
  · intro t ht
    obtain ⟨scenario, -, rfl⟩ := List.mem_map.1 ht
    trivial

theorem Reaches.sound {s : Suite σ} {world : σ} {st : State σ} (h : s.Reaches world st) :
    Sound s.maxParallel st := by
  induction h with
  | refl => exact sound_initial s world
  | tail _ m ih => exact ih.move m

/-- The tasks stay those of the scenarios. -/
theorem Move.map_scenario {st st' : State σ} (m : Move st st') :
    st'.tasks.map Task.scenario = st.tasks.map Task.scenario := by
  cases m <;> simp

theorem Reaches.map_scenario {s : Suite σ} {world : σ} {st : State σ} (h : s.Reaches world st) :
    st.tasks.map Task.scenario = s.scenarios := by
  induction h with
  | refl => simp [initial, Function.comp_def]
  | tail _ m ih => exact m.map_scenario.trans ih

/-! ### Every run comes to its end -/

/-- How many moves of its own a task has before it. -/
def Task.work : Task σ → Nat
  | ⟨s, .waiting⟩ => (Scenario.order s.steps).length + 2
  | ⟨_, .running _ _ rest _⟩ => rest.length + 1
  | ⟨_, .finished ..⟩ => 0

/-- For how long a task goes on sleeping. -/
def Task.sleep (clock : Duration) (t : Task σ) : Nat :=
  match t.wake? with
  | some wake => wake.nanos - clock.nanos
  | none => 0

/-- The moves of the tasks and of the suite that are still to come, and the time that is to pass. -/
def State.remaining (st : State σ) : Nat ×ₗ Nat :=
  toLex ((st.tasks.map Task.work).sum + (st.tasks.length - st.collected.length),
    (st.tasks.map (Task.sleep st.clock)).sum)

theorem Task.sleep_of_wake? {clock wake : Duration} {t : Task σ} (h : t.wake? = some wake) :
    t.sleep clock = wake.nanos - clock.nanos := by
  simp [sleep, h]

theorem Task.sleep_le {clock later : Duration} (t : Task σ) (le : clock ≤ later) :
    t.sleep later ≤ t.sleep clock := by
  unfold sleep
  split
  · exact Nat.sub_le_sub_left le _
  · exact Nat.le_refl _

/-- A run does not go on forever. -/
theorem Move.remaining_lt {st st' : State σ} (m : Move st st') : st'.remaining < st.remaining := by
  refine Prod.Lex.toLex_lt_toLex.2 ?_
  cases m with
  | start => exact .inl (by simp [Task.work])
  | act => exact .inl (by simp [Task.work])
  | finish => exact .inl (by simp [Task.work])
  | collect next =>
    refine .inl ?_
    simp only [List.length_append, List.length_cons, List.length_nil, next]
    omega
  | pass idle running after wakes =>
    refine .inr ⟨rfl, List.sum_lt_sum _ _ (fun t _ => t.sleep_le (Nat.le_of_lt after)) ?_⟩
    obtain ⟨t, ht, hrun⟩ := List.any_eq_true.1 running
    obtain ⟨wake, hwake⟩ := Option.isSome_iff_exists.1 hrun
    refine ⟨t, ht, ?_⟩
    rw [Task.sleep_of_wake? hwake, Task.sleep_of_wake? hwake]
    exact Nat.sub_lt_sub_left (Nat.lt_of_lt_of_le after (wakes t ht wake hwake)) after

/-- A task that has slept long enough can go on. -/
theorem exists_move_of_awake {st : State σ} {t : Task σ} (ht : t ∈ st.tasks)
    (awake : t.wake? = some st.clock) : ∃ st', Move st st' := by
  obtain ⟨clock, free, tasks, collected, world⟩ := st
  obtain ⟨before, after, rfl⟩ := List.append_of_mem ht
  obtain ⟨s, phase⟩ := t
  cases phase with
  | waiting => simp at awake
  | finished => simp at awake
  | running start wake rest done =>
    obtain rfl : wake = clock := by simpa using awake
    cases rest with
    | nil => exact ⟨_, .finish⟩
    | cons step rest => exact ⟨_, .act rfl⟩

/-- As long as slots are left, the first of the waiting tasks can start. -/
theorem exists_move_of_free {st : State σ} {t : Task σ} (ht : t ∈ st.tasks) (waiting : t.isWaiting)
    (free : st.free ≠ some 0) : ∃ st', Move st st' := by
  obtain ⟨clock, free', tasks, collected, world⟩ := st
  have hsome : (tasks.find? Task.isWaiting).isSome := List.find?_isSome.2 ⟨t, ht, waiting⟩
  obtain ⟨first, hfirst⟩ := Option.isSome_iff_exists.1 hsome
  obtain ⟨hwaiting, before, after, rfl, hbefore⟩ := List.find?_eq_some_iff_append.1 hfirst
  obtain ⟨s, phase⟩ := first
  cases phase with
  | running => simp at hwaiting
  | finished => simp at hwaiting
  | waiting =>
    match free' with
    | none => exact ⟨_, .start .uncounted⟩
    | some 0 => exact absurd rfl free
    | some (n + 1) => exact ⟨_, .start (.counted n fun t ht => by simpa using hbefore t ht)⟩

/-- Once all tasks have finished, the suite can collect the next report. -/
theorem exists_move_of_finished {st : State σ} (finished : ∀ t ∈ st.tasks, t.report?.isSome)
    (rest : st.collected.length < st.tasks.length) : ∃ st', Move st st' := by
  obtain ⟨clock, free, tasks, collected, world⟩ := st
  have hsplit := List.take_append_drop collected.length tasks
  rw [List.drop_eq_getElem_cons rest] at hsplit
  have hlength : (tasks.take collected.length).length = collected.length := by
    simpa using Nat.le_of_lt rest
  have hfinished := finished tasks[collected.length] (List.getElem_mem rest)
  generalize tasks[collected.length] = next at hsplit hfinished
  obtain ⟨s, phase⟩ := next
  cases phase with
  | waiting => simp at hfinished
  | running => simp at hfinished
  | finished start finish report =>
    rw [← hsplit]
    exact ⟨_, .collect hlength⟩

theorem Task.OnTime.le_wake {clock wake : Duration} {t : Task σ} (h : t.OnTime clock)
    (hwake : t.wake? = some wake) : clock ≤ wake := by
  obtain ⟨s, phase⟩ := t
  cases phase with
  | waiting => simp at hwake
  | running start until' rest done =>
    cases hwake
    exact h.2
  | finished => simp at hwake

theorem Task.report?_isSome {t : Task σ} (waiting : t.isWaiting = false)
    (running : t.isRunning = false) : t.report?.isSome := by
  obtain ⟨s, phase⟩ := t
  cases phase <;> simp_all

/-- A run does not get stuck before the suite is over. -/
theorem Sound.exists_move {cap : Nat} {st : State σ} (h : Sound cap st) (going : ¬st.Over) :
    ∃ st', Move st st' := by
  by_cases hawake : ∃ t ∈ st.tasks, t.wake? = some st.clock
  · obtain ⟨t, ht, awake⟩ := hawake
    exact exists_move_of_awake ht awake
  by_cases hfree : ∃ t ∈ st.tasks, t.isWaiting ∧ st.free ≠ some 0
  · obtain ⟨t, ht, waiting, free⟩ := hfree
    exact exists_move_of_free ht waiting free
  have idle : st.Idle := by
    refine ⟨fun t ht wake hwake => ?_, fun t ht waiting => ?_⟩
    · have hle := (h.onTime t ht).le_wake hwake
      have hne : wake ≠ st.clock := fun heq => hawake ⟨t, ht, heq ▸ hwake⟩
      exact Nat.lt_of_le_of_ne hle fun heq => hne (Duration.ext heq.symm)
    · by_contra hne
      exact hfree ⟨t, ht, waiting, hne⟩
  by_cases hrunning : st.tasks.any Task.isRunning
  · have later : st.clock < st.clock + .ofNanos 1 := Nat.lt_succ_self st.clock.nanos
    exact ⟨_, .pass idle hrunning later idle.asleep⟩
  -- nobody runs, so nobody lacks a slot
  have hnone : ∀ t ∈ st.tasks, t.isRunning = false := by simpa using hrunning
  have hwaiting : ∀ t ∈ st.tasks, t.isWaiting = false := by
    intro t ht
    by_contra hwaiting
    have hfull := idle.full t ht (by simpa using hwaiting)
    have hcount : st.tasks.countP Task.isRunning = 0 := List.countP_eq_zero.2 (by simpa using hnone)
    have hcounted := h.counted
    rw [hfull] at hcounted
    cases hcounted with
    | counted hcap sum => omega
  refine exists_move_of_finished (fun t ht => t.report?_isSome (hwaiting t ht) (hnone t ht)) ?_
  have hle := h.collected.length_le
  simp only [List.length_map] at hle
  exact Nat.lt_of_le_of_ne hle going

/-- Whatever has happened so far, the run can be brought to its end. -/
theorem Sound.exists_over {cap : Nat} {st : State σ} (h : Sound cap st) :
    ∃ last, Relation.ReflTransGen Move st last ∧ last.Over := by
  induction hr : st.remaining using WellFoundedLT.induction generalizing st with
  | ind r ih =>
    subst hr
    by_cases hover : st.Over
    · exact ⟨st, .refl, hover⟩
    · obtain ⟨next, m⟩ := h.exists_move hover
      obtain ⟨last, hlast, hover⟩ := ih _ m.remaining_lt (h.move m) rfl
      exact ⟨last, .head m hlast, hover⟩

/-! ### The end -/

/-- When the suite is over, every task has finished, and the reports are those of the tasks. -/
theorem Sound.map_report? {cap : Nat} {st : State σ} (h : Sound cap st) (ended : st.Over) :
    st.tasks.map Task.report? = st.report.scenarios.map some :=
  (h.collected.eq_of_length (by simpa [State.Over] using ended)).symm

theorem Sound.exists_finished {cap : Nat} {st : State σ} (h : Sound cap st) (ended : st.Over)
    {t : Task σ} (ht : t ∈ st.tasks) : ∃ s start finish report,
      t = ⟨s, .finished start finish report⟩ ∧ start ≤ finish ∧ finish ≤ st.clock ∧
        report.duration = finish - start := by
  have hreport : t.report? ∈ st.report.scenarios.map some :=
    h.map_report? ended ▸ List.mem_map_of_mem ht
  have honTime := h.onTime t ht
  obtain ⟨s, phase⟩ := t
  cases phase with
  | waiting => simp at hreport
  | running => simp at hreport
  | finished start finish report => exact ⟨s, start, finish, report, rfl, honTime⟩

end ComposeHarness.Suite
