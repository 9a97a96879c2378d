import Mathlib.Algebra.BigOperators.Group.Finset.Piecewise
import Mathlib.Algebra.GroupWithZero.Nat
import Mathlib.Algebra.Order.BigOperators.Group.Finset
import Mathlib.Order.Bounds.Basic
import Mathlib.Order.Interval.Finset.Nat
import ComposeHarness.Scenario.Suite

/-!
# Jobs that take turns

Jobs share a number of slots. They take turns: each starts at the earliest time at which the one
before it has started and a slot is free. This alone fixes their start times, and it bounds how
many run at a time and when the last one ends.
-/
namespace ComposeHarness.Schedule

/-- A job: when it starts, and for how long it runs. -/
structure Job where
  start : Nat
  duration : Nat
  deriving Repr, DecidableEq

namespace Job

def finish (j : Job) : Nat := j.start + j.duration

/-- A job runs from its start on, and at its finish it no longer does. -/
def RunsAt (t : Nat) (j : Job) : Prop := j.start ≤ t ∧ t < j.finish

instance (t : Nat) (j : Job) : Decidable (j.RunsAt t) :=
  inferInstanceAs (Decidable (j.start ≤ t ∧ t < j.finish))

end Job

/-- How many of the jobs run at a time. -/
def running (jobs : List Job) (t : Nat) : Nat := jobs.countP (·.RunsAt t)

/-- The latest finish of the jobs; zero if there are none. -/
def latest (jobs : List Job) : Nat := (jobs.map Job.finish).max?.getD 0

/-- At time `t` the next job may start: the one before it has started, and fewer than `cap` of
those before it have not ended. A cap of zero is none. -/
structure MayStart (cap : Nat) (before : List Job) (t : Nat) : Prop where
  previous : ∀ j ∈ before.getLast?, j.start ≤ t
  slot : 0 < cap → before.countP (t < ·.finish) < cap

/-- Every job starts as early as it may. -/
def InTurn (cap : Nat) (jobs : List Job) : Prop :=
  ∀ before job after, jobs = before ++ job :: after →
    IsLeast {t | MayStart cap before t} job.start

variable {cap : Nat} {jobs before : List Job} {job : Job} {t : Nat}

@[simp] theorem running_nil (t : Nat) : running [] t = 0 := rfl

theorem running_cons (job : Job) (jobs : List Job) (t : Nat) :
    running (job :: jobs) t = running jobs t + if job.RunsAt t then 1 else 0 := by
  simp [running, List.countP_cons]

theorem running_append (xs ys : List Job) (t : Nat) :
    running (xs ++ ys) t = running xs t + running ys t :=
  List.countP_append

/-- The jobs that run at a time are among those that have not ended by then. -/
theorem running_le_countP (jobs : List Job) (t : Nat) :
    running jobs t ≤ jobs.countP (t < ·.finish) :=
  List.countP_mono_left fun j _ h => by simpa using (of_decide_eq_true h).2

theorem running_eq_countP (h : ∀ j ∈ jobs, j.start ≤ t) :
    running jobs t = jobs.countP (t < ·.finish) :=
  List.countP_congr fun j hj => by simp [Job.RunsAt, h j hj]

/-! ### One more job -/

theorem inTurn_nil (cap : Nat) : InTurn cap [] := by
  intro before job after h
  simp at h

theorem inTurn_append_singleton :
    InTurn cap (before ++ [job]) ↔
      InTurn cap before ∧ IsLeast {t | MayStart cap before t} job.start := by
  constructor
  · intro h
    refine ⟨fun front j rest hj => h front j (rest ++ [job]) (by simp [hj]), h before job [] rfl⟩
  · rintro ⟨h, least⟩ front j rest heq
    rcases List.eq_nil_or_concat rest with rfl | ⟨rest, last, rfl⟩
    · obtain ⟨rfl, hj⟩ := List.append_inj' heq rfl
      cases hj
      exact least
    · rw [List.concat_eq_append, ← List.cons_append, ← List.append_assoc] at heq
      exact h front j rest (List.append_inj' heq rfl).1

/-- Jobs that take turns start in their order. -/
theorem InTurn.pairwise (h : InTurn cap jobs) : jobs.Pairwise (·.start ≤ ·.start) := by
  induction jobs using List.reverseRecOn with
  | nil => exact .nil
  | append_singleton before job ih =>
    obtain ⟨hbefore, least⟩ := inTurn_append_singleton.1 h
    refine List.pairwise_append.2 ⟨ih hbefore, List.pairwise_singleton .., ?_⟩
    intro a ha b hb
    cases List.mem_singleton.1 hb
    rcases List.eq_nil_or_concat before with rfl | ⟨front, last, rfl⟩
    · simp at ha
    · rw [List.concat_eq_append] at *
      have hlast : last.start ≤ job.start := least.1.previous last (by simp)
      rcases List.mem_append.1 ha with ha | ha
      · have := (List.pairwise_append.1 (ih hbefore)).2.2 a ha last (by simp)
        exact this.trans hlast
      · cases List.mem_singleton.1 ha
        exact hlast

/-- Where the job before the next one has started, all those before it have. -/
theorem InTurn.start_le (h : InTurn cap before) (previous : ∀ j ∈ before.getLast?, j.start ≤ t) :
    ∀ j ∈ before, j.start ≤ t := by
  intro j hj
  rcases List.eq_nil_or_concat before with rfl | ⟨front, last, rfl⟩
  · simp at hj
  · rw [List.concat_eq_append] at *
    have hlast : last.start ≤ t := previous last (by simp)
    rcases List.mem_append.1 hj with hj | hj
    · exact ((List.pairwise_append.1 h.pairwise).2.2 j hj last (by simp)).trans hlast
    · cases List.mem_singleton.1 hj
      exact hlast

/-! ### How many run at a time -/

/-- No more jobs run at a time than there are slots. -/
theorem InTurn.running_le (h : InTurn cap jobs) (hcap : 0 < cap) (t : Nat) :
    running jobs t ≤ cap := by
  induction jobs using List.reverseRecOn with
  | nil => exact Nat.zero_le _
  | append_singleton before job ih =>
    obtain ⟨hbefore, least⟩ := inTurn_append_singleton.1 h
    rw [running_append, running_cons, running_nil, Nat.zero_add]
    split
    · next hjob =>
      -- whoever runs beside the job has not ended when it starts
      have hmono : before.countP (t < ·.finish) ≤ before.countP (job.start < ·.finish) :=
        List.countP_mono_left fun j _ hj => by
          have := hjob.1
          simp only [decide_eq_true_eq] at hj ⊢
          omega
      have hslot := least.1.slot hcap
      have hrun := running_le_countP before t
      omega
    · exact ih hbefore

/-- While a job waits, every slot is taken. -/
theorem InTurn.le_running (h : InTurn cap jobs) (hjob : job ∈ jobs) (early : t < job.start) :
    0 < cap ∧ cap ≤ running jobs t := by
  induction jobs using List.reverseRecOn generalizing job with
  | nil => simp at hjob
  | append_singleton before last ih =>
    obtain ⟨hbefore, least⟩ := inTurn_append_singleton.1 h
    have hmono : running before t ≤ running (before ++ [last]) t := by
      rw [running_append]
      exact Nat.le_add_right ..
    rcases List.mem_append.1 hjob with hjob | hjob
    · obtain ⟨hcap, hle⟩ := ih hbefore hjob early
      exact ⟨hcap, hle.trans hmono⟩
    · cases List.mem_singleton.1 hjob
      by_cases hprevious : ∀ j ∈ before.getLast?, j.start ≤ t
      · by_cases hslot : 0 < cap → before.countP (t < ·.finish) < cap
        · have := least.2 ⟨hprevious, hslot⟩
          omega
        · rw [← running_eq_countP (hbefore.start_le hprevious)] at hslot
          obtain ⟨hcap, hfull⟩ := Classical.not_imp.1 hslot
          exact ⟨hcap, (Nat.le_of_not_lt hfull).trans hmono⟩
      · push Not at hprevious
        obtain ⟨j, hj, hlate⟩ := hprevious
        obtain ⟨hcap, hle⟩ := ih hbefore (List.mem_of_getLast? hj) hlate
        exact ⟨hcap, hle.trans hmono⟩

theorem InTurn.running_eq (h : InTurn cap jobs) (hjob : job ∈ jobs) (early : t < job.start) :
    running jobs t = cap :=
  have ⟨hcap, hle⟩ := h.le_running hjob early
  Nat.le_antisymm (h.running_le hcap t) hle

/-- With a slot for each of them, or no cap, all jobs start at once. -/
theorem InTurn.start_eq_zero (h : InTurn cap jobs) (hcap : cap = 0 ∨ jobs.length ≤ cap)
    (hjob : job ∈ jobs) : job.start = 0 := by
  induction jobs using List.reverseRecOn generalizing job with
  | nil => simp at hjob
  | append_singleton before last ih =>
    obtain ⟨hbefore, least⟩ := inTurn_append_singleton.1 h
    have hlength : cap = 0 ∨ before.length < cap := by
      rwa [List.length_append, List.length_singleton] at hcap
    have hzero : ∀ j ∈ before, j.start = 0 :=
      fun j hj => ih hbefore (hlength.imp_right Nat.le_of_lt) hj
    rcases List.mem_append.1 hjob with hjob | hjob
    · exact hzero job hjob
    · cases List.mem_singleton.1 hjob
      have hstart : MayStart cap before 0 := by
        refine ⟨fun j hj => (hzero j (List.mem_of_getLast? hj)).le, fun hpos => ?_⟩
        have := List.countP_le_length (p := fun j : Job => decide (0 < j.finish)) (l := before)
        omega
      exact Nat.le_zero.1 (least.2 hstart)

/-- Without a cap, jobs that start at once take turns. -/
theorem inTurn_of_start_eq_zero (h : ∀ j ∈ jobs, j.start = 0) : InTurn 0 jobs := by
  rintro before job after rfl
  rw [h job (by simp)]
  refine ⟨⟨fun j hj => ?_, fun hcap => absurd hcap (Nat.lt_irrefl 0)⟩, fun t _ => Nat.zero_le t⟩
  have := List.mem_of_getLast? hj
  exact (h j (by simp [this])).le

/-- The durations of jobs that take turns fix their start times. -/
theorem InTurn.eq_of_durations {others : List Job} (h : InTurn cap jobs)
    (hothers : InTurn cap others) (hd : jobs.map Job.duration = others.map Job.duration) :
    jobs = others := by
  induction jobs using List.reverseRecOn generalizing others with
  | nil => exact (List.map_eq_nil_iff.1 hd.symm).symm
  | append_singleton before job ih =>
    rcases List.eq_nil_or_concat others with rfl | ⟨before', job', rfl⟩
    · simp at hd
    · rw [List.concat_eq_append] at *
      rw [List.map_append, List.map_append] at hd
      obtain ⟨hfront, hlast⟩ := List.append_inj' hd rfl
      obtain ⟨hbefore, least⟩ := inTurn_append_singleton.1 h
      obtain ⟨hbefore', least'⟩ := inTurn_append_singleton.1 hothers
      cases ih hbefore hbefore' hfront
      have hstart : job.start = job'.start := least.unique least'
      have hduration : job.duration = job'.duration := by simpa using hlast
      cases job
      cases job'
      cases hstart
      cases hduration
      rfl

/-! ### When the last one ends -/

theorem finish_le_latest (hjob : job ∈ jobs) : job.finish ≤ latest jobs := by
  unfold latest
  cases h : (jobs.map Job.finish).max? with
  | none => simp_all
  | some d => exact (List.max?_eq_some_iff.1 h).2 _ (List.mem_map_of_mem hjob)

theorem exists_finish_eq_latest (h : 0 < latest jobs) : ∃ j ∈ jobs, j.finish = latest jobs := by
  unfold latest at h ⊢
  cases hmax : (jobs.map Job.finish).max? with
  | none => simp [hmax] at h
  | some d => exact List.mem_map.1 (List.max?_eq_some_iff.1 hmax).1

/-- The jobs that run before the end fill the time of all of them. -/
theorem sum_running {total : Nat} (h : ∀ j ∈ jobs, j.finish ≤ total) :
    ∑ t ∈ Finset.range total, running jobs t = (jobs.map Job.duration).sum := by
  induction jobs with
  | nil => simp
  | cons job jobs ih =>
    have hjob : ∑ t ∈ Finset.range total, (if job.RunsAt t then 1 else 0) = job.duration := by
      have hfilter : (Finset.range total).filter (job.RunsAt ·) =
          Finset.Ico job.start job.finish := by
        ext t
        have := h job (by simp)
        rw [Finset.mem_filter, Finset.mem_range, Finset.mem_Ico, Job.RunsAt]
        omega
      rw [← Finset.card_filter, hfilter]
      simp [Job.finish]
    simp only [running_cons, Finset.sum_add_distrib, hjob, ih fun j hj => h j (by simp [hj]),
      List.map_cons, List.sum_cons]
    exact Nat.add_comm ..

/-- Until the last job ends there is always one that runs. -/
theorem InTurn.running_pos (h : InTurn cap jobs) (ht : t < latest jobs) : 0 < running jobs t := by
  obtain ⟨job, hjob, hfinish⟩ := exists_finish_eq_latest (Nat.zero_lt_of_lt ht)
  by_cases hstart : job.start ≤ t
  · exact List.countP_pos_iff.2 ⟨job, hjob, by simp [Job.RunsAt, hstart, hfinish, ht]⟩
  · obtain ⟨hcap, hle⟩ := h.le_running hjob (Nat.lt_of_not_le hstart)
    omega

theorem InTurn.latest_le_sum (h : InTurn cap jobs) :
    latest jobs ≤ (jobs.map Job.duration).sum := by
  calc latest jobs = ∑ _t ∈ Finset.range (latest jobs), 1 := by simp
    _ ≤ ∑ t ∈ Finset.range (latest jobs), running jobs t :=
      Finset.sum_le_sum fun t ht => h.running_pos (Finset.mem_range.1 ht)
    _ = (jobs.map Job.duration).sum := sum_running fun _ => finish_le_latest

theorem InTurn.sum_le (h : InTurn cap jobs) (hcap : 0 < cap) :
    (jobs.map Job.duration).sum ≤ cap * latest jobs := by
  calc (jobs.map Job.duration).sum = ∑ t ∈ Finset.range (latest jobs), running jobs t :=
      (sum_running fun _ => finish_le_latest).symm
    _ ≤ ∑ _t ∈ Finset.range (latest jobs), cap :=
      Finset.sum_le_sum fun t _ => h.running_le hcap t
    _ = cap * latest jobs := by simp [Nat.mul_comm]

theorem InTurn.latest_eq_max (h : InTurn cap jobs) (hcap : cap = 0 ∨ jobs.length ≤ cap) :
    latest jobs = (jobs.map Job.duration).max?.getD 0 := by
  have : jobs.map Job.finish = jobs.map Job.duration :=
    List.map_congr_left fun j hj => by simp [Job.finish, h.start_eq_zero hcap hj]
  rw [latest, this]

theorem InTurn.latest_eq_sum (h : InTurn 1 jobs) : latest jobs = (jobs.map Job.duration).sum :=
  Nat.le_antisymm h.latest_le_sum (by simpa using h.sum_le Nat.one_pos)

/-! ### Everything together -/

/-- What there is to say of jobs that share `cap` slots and are all done after `total`. -/
structure SharesSlots (cap : Nat) (jobs : List Job) (total : Nat) : Prop where
  running_le : 0 < cap → ∀ t, running jobs t ≤ cap
  in_order : jobs.Pairwise (·.start ≤ ·.start)
  /-- No job waits while a slot is free. -/
  busy : ∀ job ∈ jobs, ∀ t < job.start, running jobs t = cap
  earliest : InTurn cap jobs
  at_once : cap = 0 → ∀ job ∈ jobs, job.start = 0
  total_eq : total = latest jobs
  duration_le : ∀ job ∈ jobs, job.duration ≤ total
  le_sum : total ≤ (jobs.map Job.duration).sum
  sum_le : 0 < cap → (jobs.map Job.duration).sum ≤ cap * total
  eq_max : cap = 0 ∨ jobs.length ≤ cap → total = (jobs.map Job.duration).max?.getD 0
  eq_sum : cap = 1 → total = (jobs.map Job.duration).sum

theorem InTurn.sharesSlots (h : InTurn cap jobs) : SharesSlots cap jobs (latest jobs) where
  running_le := h.running_le
  in_order := h.pairwise
  busy _ hjob _ early := h.running_eq hjob early
  earliest := h
  at_once hcap _ hjob := h.start_eq_zero (.inl hcap) hjob
  total_eq := rfl
  duration_le _ hjob := (Nat.le_add_left ..).trans (finish_le_latest hjob)
  le_sum := h.latest_le_sum
  sum_le := h.sum_le
  eq_max := h.latest_eq_max
  eq_sum hcap := by
    subst hcap
    exact h.latest_eq_sum

end ComposeHarness.Schedule
