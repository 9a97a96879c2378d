import ComposeHarness.Proofs.Schedule.Turns

/-!
# The earliest free slot

A schedule is made by putting each job on the slot that is free first. The jobs then take turns:
once the latest job has started, the slots that are taken are those of the jobs that go on.
-/
namespace ComposeHarness.Schedule

/-! ### The earliest of some times -/

theorem takeLeast_cons (first t : Nat) (ts : List Nat) :
    takeLeast first (t :: ts) =
      if first ≤ (takeLeast t ts).1 then (first, (takeLeast t ts).1 :: (takeLeast t ts).2)
      else ((takeLeast t ts).1, first :: (takeLeast t ts).2) := rfl

theorem takeLeast_perm (first : Nat) (ts : List Nat) :
    ((takeLeast first ts).1 :: (takeLeast first ts).2).Perm (first :: ts) := by
  induction ts generalizing first with
  | nil => exact .refl _
  | cons t ts ih =>
    rw [takeLeast_cons]
    split
    · exact (ih t).cons first
    · exact (List.Perm.swap ..).trans ((ih t).cons first)

theorem takeLeast_le (first : Nat) (ts : List Nat) :
    ∀ t ∈ first :: ts, (takeLeast first ts).1 ≤ t := by
  induction ts generalizing first with
  | nil => simp [takeLeast]
  | cons t ts ih =>
    rw [takeLeast_cons]
    have hrest := ih t
    split
    · next h =>
      intro x hx
      rcases List.mem_cons.1 hx with rfl | hx
      · exact Nat.le_refl _
      · exact Nat.le_trans h (hrest x hx)
    · next h =>
      intro x hx
      rcases List.mem_cons.1 hx with rfl | hx
      · exact Nat.le_of_not_le h
      · exact hrest x hx

/-! ### One job -/

/-- The slots of some jobs, each with the time from which on it is free. -/
structure FreeFrom (before : List Job) (slots : List Nat) : Prop where
  started : ∀ j ∈ before, ∀ free ∈ slots, j.start ≤ free
  /-- From the latest start on, the slots that are taken are those of the jobs that go on. -/
  taken : ∀ t, (∀ j ∈ before, j.start ≤ t) →
    before.countP (t < ·.finish) = slots.countP (t < ·)

/-- There are as many slots as the cap allows, or more than jobs before the next one. -/
structure Enough (cap : Nat) (before : List Job) (slots : List Nat) : Prop where
  le_cap : slots.length ≤ cap
  or_lt : slots.length = cap ∨ before.length < slots.length

variable {cap slot : Nat} {slots : List Nat} {before : List Job}

theorem FreeFrom.perm {others : List Nat} (h : FreeFrom before slots) (hp : slots.Perm others) :
    FreeFrom before others where
  started j hj free hfree := h.started j hj free (hp.mem_iff.2 hfree)
  taken t ht := (h.taken t ht).trans (hp.countP_eq _)

/-- A job that takes the slot `start` holds it until its finish. -/
theorem FreeFrom.append {start : Nat} (h : FreeFrom before (start :: slots))
    (least : ∀ free ∈ slots, start ≤ free) (duration : Nat) :
    FreeFrom (before ++ [⟨start, duration⟩]) ((start + duration) :: slots) := by
  constructor
  · intro j hj free hfree
    have hstart : start ≤ free := by
      rcases List.mem_cons.1 hfree with rfl | hfree
      · exact Nat.le_add_right ..
      · exact least free hfree
    rcases List.mem_append.1 hj with hj | hj
    · exact Nat.le_trans (h.started j hj start (by simp)) hstart
    · cases List.mem_singleton.1 hj
      exact hstart
  · intro t ht
    have hbefore := h.taken t fun j hj => ht j (by simp [hj])
    have hstart : start ≤ t := ht ⟨start, duration⟩ (by simp)
    rw [List.countP_append, hbefore]
    by_cases hduration : t < start + duration <;>
      simp [Job.finish, hduration, Nat.not_lt_of_le hstart]

/-- The next job starts when the earliest slot is free, and no earlier time will do. -/
theorem FreeFrom.isLeast {start : Nat} (h : FreeFrom before (start :: slots))
    (least : ∀ free ∈ slots, start ≤ free) (enough : Enough cap before (start :: slots))
    (turns : InTurn cap before) : IsLeast {t | MayStart cap before t} start := by
  constructor
  · refine ⟨fun j hj => h.started j (List.mem_of_getLast? hj) start (by simp), fun _ => ?_⟩
    have hle := List.countP_le_length (p := fun free => decide (start < free)) (l := slots)
    have hcap := enough.le_cap
    rw [h.taken start fun j hj => h.started j hj start (by simp)]
    simp only [List.countP_cons_of_neg, Nat.lt_irrefl, decide_false, Bool.false_eq_true,
      not_false_eq_true, List.length_cons] at hcap ⊢
    omega
  · intro t ht
    by_contra hlate
    -- before `start` every slot is taken
    have hall : (start :: slots).countP (t < ·) = (start :: slots).length := by
      refine List.countP_eq_length.2 fun free hfree => ?_
      rcases List.mem_cons.1 hfree with rfl | hfree
      · simpa using hlate
      · have := least free hfree
        simp only [decide_eq_true_eq]
        omega
    have htaken := h.taken t (turns.start_le ht.previous)
    have hpos : 0 < cap := Nat.lt_of_lt_of_le (by simp) enough.le_cap
    have hslot := ht.slot hpos
    have hlength := List.countP_le_length (p := fun j : Job => decide (t < j.finish)) (l := before)
    rcases enough.or_lt with h' | h' <;> omega

/-! ### All jobs -/

/-- Jobs with these start times and durations. -/
def jobsOf (starts durations : List Nat) : List Job :=
  (starts.zip durations).map fun x => ⟨x.1, x.2⟩

@[simp] theorem jobsOf_nil (durations : List Nat) : jobsOf [] durations = [] := rfl

@[simp] theorem jobsOf_cons (start duration : Nat) (starts durations : List Nat) :
    jobsOf (start :: starts) (duration :: durations) =
      ⟨start, duration⟩ :: jobsOf starts durations := rfl

theorem map_start_jobsOf {starts durations : List Nat} (h : starts.length = durations.length) :
    (jobsOf starts durations).map Job.start = starts := by
  rw [jobsOf, List.map_map]
  exact List.map_fst_zip h.le

theorem map_duration_jobsOf {starts durations : List Nat} (h : starts.length = durations.length) :
    (jobsOf starts durations).map Job.duration = durations := by
  rw [jobsOf, List.map_map]
  exact List.map_snd_zip h.ge

theorem makespan_eq_latest (starts durations : List Nat) :
    makespan starts durations = latest (jobsOf starts durations) := by
  have hfinish : List.zipWith (· + ·) starts durations =
      (jobsOf starts durations).map Job.finish := by
    rw [jobsOf, List.map_map, List.zip_eq_zipWith, List.map_zipWith]
    rfl
  rw [makespan, hfinish, latest, List.foldl_max, Nat.zero_max]

theorem inTurn_assign {durations : List Nat} (turns : InTurn cap before)
    (free : FreeFrom before (slot :: slots)) (hcap : slots.length + 1 ≤ cap)
    (enough : slots.length + 1 = cap ∨ before.length + durations.length ≤ slots.length + 1) :
    InTurn cap (before ++ jobsOf (assign slot slots durations) durations) := by
  induction durations generalizing before slot slots with
  | nil => simpa [assign] using turns
  | cons d ds ih =>
    have hperm := takeLeast_perm slot slots
    have hleast := takeLeast_le slot slots
    rw [assign]
    generalize takeLeast slot slots = taken at hperm hleast
    obtain ⟨start, others⟩ := taken
    have hlength : others.length = slots.length := by simpa using hperm.length_eq
    have hothers : ∀ t ∈ others, start ≤ t :=
      fun t ht => hleast t (hperm.mem_iff.1 (List.mem_cons_of_mem _ ht))
    have hfree := free.perm hperm.symm
    have henough : Enough cap before (start :: others) := by
      constructor <;> simp only [List.length_cons] at enough ⊢ <;> omega
    have hnext : InTurn cap (before ++ [⟨start, d⟩]) :=
      inTurn_append_singleton.2 ⟨turns, hfree.isLeast hothers henough turns⟩
    have hcap' : others.length + 1 ≤ cap := hlength ▸ hcap
    have henough' : others.length + 1 = cap ∨
        (before ++ [Job.mk start d]).length + ds.length ≤ others.length + 1 := by
      simp only [List.length_append, List.length_cons, List.length_nil] at enough ⊢
      omega
    have hrest := ih hnext (hfree.append hothers d) hcap' henough'
    simpa [List.append_assoc] using hrest

theorem length_assign (slot : Nat) (slots durations : List Nat) :
    (assign slot slots durations).length = durations.length := by
  induction durations generalizing slot slots with
  | nil => rfl
  | cons d ds ih => simp [assign, ih]

theorem length_starts (cap : Nat) (durations : List Nat) :
    (starts cap durations).length = durations.length := by
  unfold starts
  split
  · simp
  · exact length_assign ..

/-- Before the first job every slot is free. -/
theorem freeFrom_replicate (n : Nat) : FreeFrom [] (List.replicate n 0) := by
  refine ⟨by simp, fun t _ => ?_⟩
  rw [List.countP_nil, eq_comm, List.countP_eq_zero]
  intro free hfree
  simp [List.eq_of_mem_replicate hfree]

/-- The jobs of a schedule take turns. -/
theorem inTurn_starts (cap : Nat) (durations : List Nat) :
    InTurn cap (jobsOf (starts cap durations) durations) := by
  unfold starts
  split
  · next hcap =>
    subst hcap
    apply inTurn_of_start_eq_zero
    intro j hj
    obtain ⟨x, hx, rfl⟩ := List.mem_map.1 hj
    exact List.eq_of_mem_replicate (List.map_const' .. ▸ (List.of_mem_zip hx).1)
  · next hcap =>
    rcases durations with _ | ⟨d, ds⟩
    · exact inTurn_nil cap
    · rw [← List.nil_append (jobsOf ..)]
      refine inTurn_assign (inTurn_nil cap) (freeFrom_replicate (_ + 1)) ?_ ?_ <;>
        simp only [List.length_replicate, List.length_cons, List.length_nil] <;> omega

end ComposeHarness.Schedule
