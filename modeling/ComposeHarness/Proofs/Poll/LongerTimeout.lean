import ComposeHarness.Proofs.Poll.Loop

/-!
# Polls that may take longer

A poll that converges does so with a longer timeout as well, in as many attempts. Both polls do the
same at the same times until the shorter one cuts a sleep short. That sleep ends on its deadline, so
only one more attempt follows, with a budget of one interval. The longer poll makes that attempt
later, and grants it no less.
-/
namespace ComposeHarness.Poll

variable {σ α : Type} {interval timeout longer elapsed later : Duration} {probe : Probe σ α}
  {world : σ}

/-! ### One attempt in both polls -/

/-- Of two polls, the longer one is where the shorter one is, or the deadline of the shorter one has
come and the longer one is not behind. -/
structure KeepsUp (timeout elapsed later : Duration) : Prop where
  le : elapsed ≤ later
  eq_of_lt : elapsed < timeout → later = elapsed

theorem keepsUp_self (timeout elapsed : Duration) : KeepsUp timeout elapsed elapsed :=
  ⟨Nat.le_refl _, fun _ => rfl⟩

/-- The longer poll grants an attempt no less than the shorter one does. -/
theorem KeepsUp.budget_le (h : KeepsUp timeout elapsed later) (le : timeout ≤ longer) :
    budget ⟨interval, timeout⟩ elapsed ≤ budget ⟨interval, longer⟩ later := by
  simp only [budget, Duration.le_def, Duration.nanos_max, Duration.nanos_sub] at le ⊢
  by_cases early : elapsed < timeout
  · rw [h.eq_of_lt early]
    omega
  · simp only [Duration.lt_def] at early
    omega

/-- An attempt that the shorter poll sees answered is answered alike in the longer one, after the
same time. -/
theorem KeepsUp.answered (h : KeepsUp timeout elapsed later) (le : timeout ≤ longer)
    {answer : Except Failure (Observation α)}
    (answered : (attempt ⟨interval, timeout⟩ probe elapsed world).1.answer = some answer) :
    ∃ delay, (attempt ⟨interval, timeout⟩ probe elapsed world).1.finish = elapsed + delay ∧
      (attempt ⟨interval, longer⟩ probe later world).1.finish = later + delay ∧
      (attempt ⟨interval, longer⟩ probe later world).1.answer = some answer := by
  obtain ⟨-, ⟨delay, answer', reply, within, answered', finish⟩ | ⟨-, cut, -⟩⟩ :=
    attempt_spec ⟨interval, timeout⟩ probe elapsed world
  · obtain rfl : answer' = answer := Option.some.inj (answered'.symm.trans answered)
    have hwithin : delay ≤ budget ⟨interval, longer⟩ later :=
      Nat.le_trans within (h.budget_le le)
    obtain ⟨-, ⟨delay', answer'', reply', -, later_answered, later_finish⟩ | ⟨never, -, -⟩⟩ :=
      attempt_spec ⟨interval, longer⟩ probe later world
    · cases reply.symm.trans reply'
      exact ⟨delay, finish, later_finish, later_answered⟩
    · exact absurd hwithin (Nat.not_le_of_lt (never delay answer' reply))
  · cases cut.symm.trans answered

/-- An attempt that ends before the deadline of the shorter poll is the same in the longer one. -/
theorem KeepsUp.attempt_eq (h : KeepsUp timeout elapsed later) (le : timeout ≤ longer)
    (early : ¬timeout ≤ (attempt ⟨interval, timeout⟩ probe elapsed world).1.finish) :
    attempt ⟨interval, longer⟩ probe later world =
      attempt ⟨interval, timeout⟩ probe elapsed world := by
  cases hanswer : (attempt ⟨interval, timeout⟩ probe elapsed world).1.answer with
  | none => exact absurd (timeout_le_finish hanswer) early
  | some answer =>
    obtain ⟨delay, finish, finish', answer'⟩ := h.answered le hanswer
    have hearly : elapsed < timeout := by
      simp only [finish, Duration.le_def, Duration.lt_def, Duration.nanos_add] at early ⊢
      omega
    obtain rfl := h.eq_of_lt hearly
    have start := (attempt_spec ⟨interval, timeout⟩ probe later world).1
    have start' := (attempt_spec ⟨interval, longer⟩ probe later world).1
    refine Prod.ext ?_ (by simp only [attempt_world])
    rw [Attempt.mk.injEq]
    exact ⟨start'.trans start.symm, finish'.trans finish.symm, answer'.trans hanswer.symm⟩

/-- After a sleep that only the shorter poll cuts short, the shorter one is at its deadline. -/
theorem keepsUp_sleep (finish : Duration) (le : timeout ≤ longer) :
    KeepsUp timeout (finish + pause ⟨interval, timeout⟩ finish)
      (finish + pause ⟨interval, longer⟩ finish) := by
  constructor
  · simp only [pause, Duration.le_def, Duration.nanos_add, Duration.nanos_min,
      Duration.nanos_sub] at le ⊢
    omega
  · intro early
    apply Duration.ext
    simp only [pause, Duration.le_def, Duration.lt_def, Duration.nanos_add, Duration.nanos_min,
      Duration.nanos_sub] at le early ⊢
    omega

/-! ### The whole polls -/

/-- Two polls that converge alike: to the same value, after the same answers, the second one not
earlier than the first. -/
structure ConvergesAlike (v : α) (r r' : PollRun σ α) : Prop where
  outcome : r'.outcome = .ok v
  answers : r'.attempts.map Attempt.answer = r.attempts.map Attempt.answer
  world : r'.world = r.world
  elapsed_le : r.elapsed ≤ r'.elapsed

/-- Wherever the longer poll keeps up with the shorter one, it converges if the shorter one does. -/
theorem KeepsUp.convergesAlike {what : String} {render : α → String} {limit : Nat}
    {past past' : List (Attempt α)} {r : PollRun σ α} {v : α}
    (h : KeepsUp timeout elapsed later) (le : timeout ≤ longer)
    (answers : past'.map Attempt.answer = past.map Attempt.answer)
    (ran : go what ⟨interval, timeout⟩ render probe limit elapsed world past = some r)
    (converged : r.outcome = .ok v) :
    ∃ r', go what ⟨interval, longer⟩ render probe limit later world past' = some r' ∧
      ConvergesAlike v r r' := by
  induction limit generalizing elapsed later world past past' with
  | zero => simp [go] at ran
  | succ limit ih =>
    rw [go_succ] at ran ⊢
    dsimp only at ran ⊢
    cases hv : (attempt ⟨interval, timeout⟩ probe elapsed world).1.value? with
    | some value =>
      have hanswer := Attempt.value?_eq_some_iff.1 hv
      obtain ⟨delay, finish, finish', hanswer'⟩ := h.answered le hanswer
      have hv' := Attempt.value?_eq_some_iff.2 hanswer'
      simp only [hv] at ran
      simp only [hv']
      cases ran
      cases converged
      refine ⟨_, rfl, rfl, ?_, ?_, ?_⟩
      · simp only [List.map_reverse, List.map_cons, hanswer, hanswer', answers]
      · simp only [attempt_world]
      · simp only [finish, finish']
        exact Nat.add_le_add_right h.le delay.nanos
    | none =>
      simp only [hv] at ran
      split at ran
      · cases ran
        cases converged
      · next early =>
        -- before its deadline the shorter poll does nothing that the longer one does not
        have hearly : ¬longer ≤ (attempt ⟨interval, timeout⟩ probe elapsed world).1.finish :=
          fun late => early (Nat.le_trans le late)
        simp only [h.attempt_eq le early, hv, hearly, if_false]
        exact ih (keepsUp_sleep _ le) (by simp only [List.map_cons, answers]) ran

/-- Raising the timeout never turns a poll that converges into one that does not. The probe is not
told the time, so its replies are the same in both polls, and the poll converges to the same value
after as many attempts. `run` is the case in which attempts are counted in 32 bits. -/
theorem go_converges_with_longer_timeout (what : String) (render : α → String)
    (probe : Probe σ α) (world : σ) {interval timeout longer : Duration} (le : timeout ≤ longer)
    {limit : Nat} {r : PollRun σ α} {v : α}
    (ran : go what ⟨interval, timeout⟩ render probe limit .zero world [] = some r)
    (converged : r.outcome = .ok v) :
    ∃ r', go what ⟨interval, longer⟩ render probe limit .zero world [] = some r' ∧
      r'.outcome = .ok v ∧ r'.attempts.length = r.attempts.length ∧ ConvergesAlike v r r' := by
  obtain ⟨r', ran', alike⟩ := (keepsUp_self timeout .zero).convergesAlike le rfl ran converged
  have hlength := congrArg List.length alike.answers
  simp only [List.length_map] at hlength
  exact ⟨r', ran', alike.outcome, hlength, alike⟩

/-- Is pending for two seconds, and takes three more to converge. -/
def slowStart : Probe Nat String := fun n =>
  (if n = 0 then .after (.ofSeconds 2) (.ok (.pending "starting"))
    else .after (.ofSeconds 3) (.ok (.converged "up")), n + 1)

/-- With a timeout of four seconds the second attempt starts on the deadline, two seconds after the
first one. It takes all of its budget of one interval. -/
def slowStartOnDeadline : PollRun Nat String where
  outcome := .ok "up"
  attempts := [⟨.zero, .ofSeconds 2, some (.ok (.pending "starting"))⟩,
    ⟨.ofSeconds 4, .ofSeconds 7, some (.ok (.converged "up"))⟩]
  elapsed := .ofSeconds 7
  world := 2

theorem slowStart_converges_with_longer_timeout :
    Duration.ofSeconds 4 ≤ .ofSeconds 30 ∧
      go "up" ⟨.ofSeconds 3, .ofSeconds 4⟩ id slowStart 2 .zero 0 [] = some slowStartOnDeadline ∧
      slowStartOnDeadline.outcome = .ok "up" ∧
      ∃ r', go "up" ⟨.ofSeconds 3, .ofSeconds 30⟩ id slowStart 2 .zero 0 [] = some r' ∧
        r'.outcome = .ok "up" ∧ r'.attempts.length = 2 ∧
        ConvergesAlike "up" slowStartOnDeadline r' := by
  have le : Duration.ofSeconds 4 ≤ .ofSeconds 30 := by decide
  have ran : go "up" ⟨.ofSeconds 3, .ofSeconds 4⟩ id slowStart 2 .zero 0 [] =
      some slowStartOnDeadline := by rfl
  exact ⟨le, ran, rfl, go_converges_with_longer_timeout "up" id slowStart 0 le ran rfl⟩

end ComposeHarness.Poll
