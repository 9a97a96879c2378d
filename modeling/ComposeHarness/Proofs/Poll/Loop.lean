import ComposeHarness.Poll

/-!
# The loop of a poll

What one attempt does, where the loop can be when an attempt is about to start, and how it ends.
`Reach` and `Ends` say together what `go` computes: it ends where the loop can be, and it passes
through every place where the loop can be.
-/
namespace ComposeHarness

variable {σ α : Type}

/-- The value that an attempt converged to. -/
def Attempt.value? (a : Attempt α) : Option α :=
  match a.answer with
  | some (.ok (.converged value)) => some value
  | _ => none

theorem Attempt.value?_eq_some_iff {a : Attempt α} {value : α} :
    a.value? = some value ↔ a.answer = some (.ok (.converged value)) := by
  unfold value?
  split <;> simp_all

/-- The world after a number of calls of a probe. -/
def Probe.worldAfter (probe : Probe σ α) (first : σ) : Nat → σ
  | 0 => first
  | n + 1 => (probe (probe.worldAfter first n)).2

namespace Poll

/-! ### One attempt -/

/-- An attempt ends with the probe's answer if that comes within the budget, and is cut off at the
end of the budget if not. -/
theorem attempt_spec (spec : PollSpec) (probe : Probe σ α) (elapsed : Duration) (world : σ) :
    let made := (attempt spec probe elapsed world).1
    made.start = elapsed ∧
      ((∃ delay answer, (probe world).1 = .after delay answer ∧ delay ≤ budget spec elapsed ∧
          made.answer = some answer ∧ made.finish = elapsed + delay) ∨
        ((∀ delay answer, (probe world).1 = .after delay answer → budget spec elapsed < delay) ∧
          made.answer = none ∧ made.finish = elapsed + budget spec elapsed)) := by
  unfold attempt
  rcases probe world with ⟨_ | ⟨delay, answer⟩, next⟩
  · simp
  · by_cases h : delay ≤ budget spec elapsed
    · simp only [h, if_true]
      exact ⟨trivial, .inl ⟨delay, answer, rfl, h, rfl, rfl⟩⟩
    · have late : budget spec elapsed < delay := Nat.lt_of_not_le h
      simp [h, late]

theorem attempt_start {spec : PollSpec} {probe : Probe σ α} {elapsed : Duration} {world next : σ}
    {made : Attempt α} (h : attempt spec probe elapsed world = (made, next)) :
    made.start = elapsed := by
  have spec := (attempt_spec spec probe elapsed world).1
  rwa [h] at spec

/-- An attempt takes no longer than its budget. -/
theorem attempt_finish_le {spec : PollSpec} {probe : Probe σ α} {elapsed : Duration}
    {world next : σ} {made : Attempt α} (h : attempt spec probe elapsed world = (made, next)) :
    made.finish ≤ elapsed + budget spec elapsed := by
  have spec := (attempt_spec spec probe elapsed world).2
  rw [h] at spec
  obtain ⟨delay, answer, -, hd, -, hf⟩ | ⟨-, -, hf⟩ := spec
  · exact hf ▸ Nat.add_le_add_left hd _
  · exact hf ▸ Nat.le_refl _

theorem attempt_start_le_finish {spec : PollSpec} {probe : Probe σ α} {elapsed : Duration}
    {world next : σ} {made : Attempt α} (h : attempt spec probe elapsed world = (made, next)) :
    elapsed ≤ made.finish := by
  have spec := (attempt_spec spec probe elapsed world).2
  rw [h] at spec
  obtain ⟨delay, answer, -, -, -, hf⟩ | ⟨-, -, hf⟩ := spec
  · exact hf ▸ Nat.le_add_right ..
  · exact hf ▸ Nat.le_add_right ..

/-- An attempt leaves the world that the probe leaves, even if it is cut off. -/
theorem attempt_world (spec : PollSpec) (probe : Probe σ α) (elapsed : Duration) (world : σ) :
    (attempt spec probe elapsed world).2 = (probe world).2 := by
  unfold attempt
  rcases probe world with ⟨_ | ⟨delay, answer⟩, next⟩
  · rfl
  · dsimp only
    split <;> rfl

/-- An attempt that is cut off ends at the deadline or later. -/
theorem timeout_le_finish {spec : PollSpec} {probe : Probe σ α} {elapsed : Duration} {world : σ}
    (cut : (attempt spec probe elapsed world).1.answer = none) :
    spec.timeout ≤ (attempt spec probe elapsed world).1.finish := by
  obtain ⟨-, ⟨delay, answer, -, -, answered, -⟩ | ⟨-, -, finish⟩⟩ :=
    attempt_spec spec probe elapsed world
  · cases answered.symm.trans cut
  · rw [finish]
    simp only [budget, Duration.le_def, Duration.nanos_add, Duration.nanos_max, Duration.nanos_sub]
    omega

/-! ### The loop -/

/-- One round of the loop: the attempt converges, or it ends at the deadline or later, or the loop
goes on after a pause. -/
theorem go_succ (what : String) (spec : PollSpec) (render : α → String) (probe : Probe σ α)
    (limit : Nat) (elapsed : Duration) (world : σ) (past : List (Attempt α)) :
    go what spec render probe (limit + 1) elapsed world past =
      let made := (attempt spec probe elapsed world).1
      let next := (attempt spec probe elapsed world).2
      match made.value? with
      | some value => some ⟨.ok value, (made :: past).reverse, made.finish, next⟩
      | none =>
        if spec.timeout ≤ made.finish then
          some ⟨.error (.unconverged what (some (lastSeen render (budget spec elapsed) made.answer))
            made.finish), (made :: past).reverse, made.finish, next⟩
        else
          go what spec render probe limit (made.finish + pause spec made.finish) next
            (made :: past) := by
  rw [go]
  obtain ⟨made, next⟩ := attempt spec probe elapsed world
  obtain ⟨start, finish, answer⟩ := made
  match answer with
  | none => rfl
  | some (.error failure) => rfl
  | some (.ok (.pending value)) => rfl
  | some (.ok (.converged value)) => rfl

/-- Where the loop can be when an attempt is about to start: how much time has passed, the world,
and the attempts made before, the latest in front. -/
inductive Reach (spec : PollSpec) (probe : Probe σ α) (first : σ) :
    Duration → σ → List (Attempt α) → Prop where
  | start : Reach spec probe first .zero first []
  | sleep {elapsed : Duration} {world next : σ} {past : List (Attempt α)} {made : Attempt α}
      (reach : Reach spec probe first elapsed world past)
      (tried : attempt spec probe elapsed world = (made, next)) (waiting : made.value? = none)
      (early : ¬spec.timeout ≤ made.finish) :
      Reach spec probe first (made.finish + pause spec made.finish) next (made :: past)

/-- How a round of the loop can end the poll. -/
inductive Ends (what : String) (spec : PollSpec) (render : α → String) (probe : Probe σ α)
    (elapsed : Duration) (world : σ) (past : List (Attempt α)) : PollRun σ α → Prop where
  | converged {made : Attempt α} {next : σ} {value : α}
      (tried : attempt spec probe elapsed world = (made, next)) (h : made.value? = some value) :
      Ends what spec render probe elapsed world past
        ⟨.ok value, (made :: past).reverse, made.finish, next⟩
  | timedOut {made : Attempt α} {next : σ}
      (tried : attempt spec probe elapsed world = (made, next)) (waiting : made.value? = none)
      (late : spec.timeout ≤ made.finish) :
      Ends what spec render probe elapsed world past
        ⟨.error (.unconverged what (some (lastSeen render (budget spec elapsed) made.answer))
          made.finish), (made :: past).reverse, made.finish, next⟩

variable {what : String} {spec : PollSpec} {render : α → String} {probe : Probe σ α}
  {first world : σ} {elapsed : Duration} {past : List (Attempt α)} {limit : Nat}
  {r : PollRun σ α}

/-- A poll that returns does so in a round that the loop can reach. -/
theorem exists_ends_of_go (reach : Reach spec probe first elapsed world past)
    (h : go what spec render probe limit elapsed world past = some r) :
    ∃ elapsed' world' past', Reach spec probe first elapsed' world' past' ∧
      Ends what spec render probe elapsed' world' past' r := by
  induction limit generalizing elapsed world past with
  | zero => simp [go] at h
  | succ limit ih =>
    rw [go_succ] at h
    generalize hmade : attempt spec probe elapsed world = round at h
    obtain ⟨made, next⟩ := round
    simp only at h
    split at h
    · next value hvalue =>
      cases h
      exact ⟨elapsed, world, past, reach, .converged hmade hvalue⟩
    · next hvalue =>
      split at h
      · next late =>
        cases h
        exact ⟨elapsed, world, past, reach, .timedOut hmade hvalue late⟩
      · next early => exact ih (reach.sleep hmade hvalue early) h

/-- A poll passes through every place that the loop can reach. -/
theorem go_of_reach (reach : Reach spec probe first elapsed world past) (limit : Nat) :
    go what spec render probe (limit + past.length) .zero first [] =
      go what spec render probe limit elapsed world past := by
  induction reach generalizing limit with
  | start => rfl
  | @sleep elapsed world next past made reach tried waiting early ih =>
    have h := ih (limit + 1)
    rw [go_succ, tried] at h
    simpa [waiting, early, Nat.add_right_comm, Nat.add_assoc] using h

/-- A round that ends the poll does so however many attempts may still follow. -/
theorem Ends.go_succ (ends : Ends what spec render probe elapsed world past r) (limit : Nat) :
    go what spec render probe (limit + 1) elapsed world past = some r := by
  rw [Poll.go_succ]
  cases ends with
  | converged tried h => simp [tried, h]
  | timedOut tried waiting late => simp [tried, waiting, late]

/-- A poll that runs out of attempts has come to a place that it reached by as many of them. -/
theorem exists_reach_of_go_eq_none (reach : Reach spec probe first elapsed world past)
    (h : go what spec render probe limit elapsed world past = none) :
    ∃ elapsed' world' past', Reach spec probe first elapsed' world' past' ∧
      past'.length = past.length + limit := by
  induction limit generalizing elapsed world past with
  | zero => exact ⟨elapsed, world, past, reach, rfl⟩
  | succ limit ih =>
    rw [Poll.go_succ] at h
    generalize hmade : attempt spec probe elapsed world = round at h
    obtain ⟨made, next⟩ := round
    simp only at h
    split at h
    · cases h
    · next hvalue =>
      split at h
      · cases h
      · next early =>
        obtain ⟨elapsed', world', past', reach', hlength⟩ := ih (reach.sleep hmade hvalue early) h
        exact ⟨elapsed', world', past', reach', by simp [hlength]; omega⟩

/-! ### The attempts of a poll and the replies of its probe -/

/-- The `n`-th attempt, counted from zero: it was made where the loop is after `n` others, and so
it is the probe's `n`-th reply that answers it. -/
def IsAttempt (spec : PollSpec) (probe : Probe σ α) (first : σ) (n : Nat) (a : Attempt α) : Prop :=
  ∃ past, past.length = n ∧ Reach spec probe first a.start (probe.worldAfter first n) past ∧
    attempt spec probe a.start (probe.worldAfter first n) = (a, probe.worldAfter first (n + 1))

/-- Every attempt is the one of its number. -/
def AreAttempts (spec : PollSpec) (probe : Probe σ α) (first : σ) (as : List (Attempt α)) : Prop :=
  ∀ n a, as[n]? = some a → IsAttempt spec probe first n a

theorem AreAttempts.concat {as : List (Attempt α)} (h : AreAttempts spec probe first as)
    {a : Attempt α} (ha : IsAttempt spec probe first as.length a) :
    AreAttempts spec probe first (as ++ [a]) := by
  intro n b hb
  rw [List.getElem?_append] at hb
  split at hb
  · exact h n b hb
  · next hn =>
    obtain ⟨hlast, rfl⟩ : n - as.length = 0 ∧ a = b := by
      simpa [List.getElem?_singleton] using hb
    have : n = as.length := by omega
    exact this ▸ ha

/-- Each attempt calls the probe once. -/
theorem Reach.world_eq (reach : Reach spec probe first elapsed world past) :
    world = probe.worldAfter first past.length := by
  induction reach with
  | start => rfl
  | @sleep elapsed world next past made reach tried waiting early ih =>
    rw [List.length_cons, Probe.worldAfter, ← ih, ← attempt_world spec probe elapsed, tried]

theorem Reach.isAttempt (reach : Reach spec probe first elapsed world past) {made : Attempt α}
    {next : σ} (tried : attempt spec probe elapsed world = (made, next)) :
    IsAttempt spec probe first past.length made ∧
      next = probe.worldAfter first (past.length + 1) := by
  have hnext : next = probe.worldAfter first (past.length + 1) := by
    rw [Probe.worldAfter, ← reach.world_eq, ← attempt_world spec probe elapsed, tried]
  refine ⟨⟨past, rfl, ?_, ?_⟩, hnext⟩
  · rw [attempt_start tried, ← reach.world_eq]
    exact reach
  · rw [attempt_start tried, ← reach.world_eq, ← hnext]
    exact tried

theorem Reach.areAttempts (reach : Reach spec probe first elapsed world past) :
    AreAttempts spec probe first past.reverse := by
  induction reach with
  | start => simp [AreAttempts]
  | sleep reach tried waiting early ih =>
    rw [List.reverse_cons]
    exact ih.concat (by simpa using (reach.isAttempt tried).1)

/-- A finished poll has made the attempts that its list says, and has called the probe for each of
them. -/
theorem Ends.areAttempts (reach : Reach spec probe first elapsed world past)
    (ends : Ends what spec render probe elapsed world past r) :
    AreAttempts spec probe first r.attempts ∧ r.attempts.length = past.length + 1 ∧
      r.world = probe.worldAfter first r.attempts.length := by
  have hmade : ∀ {made next}, attempt spec probe elapsed world = (made, next) →
      AreAttempts spec probe first (made :: past).reverse ∧
        (made :: past).reverse.length = past.length + 1 ∧
        next = probe.worldAfter first (made :: past).reverse.length := by
    intro made next tried
    obtain ⟨hattempt, hnext⟩ := reach.isAttempt tried
    refine ⟨?_, by simp, by simpa using hnext⟩
    rw [List.reverse_cons]
    exact reach.areAttempts.concat (by simpa using hattempt)
  cases ends with
  | converged tried h => exact hmade tried
  | timedOut tried waiting late => exact hmade tried

end Poll
end ComposeHarness
