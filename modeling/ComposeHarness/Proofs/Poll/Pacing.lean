import Mathlib.Algebra.Order.Floor.Div
import ComposeHarness.Proofs.Poll.Deadline

/-!
# How often a poll probes, and when

A poll whose interval is not zero ends whatever its probe does. An attempt starts no earlier than
as many intervals after the first one as there were attempts before it, unless it starts on the
deadline, and after one that ends there the poll is over. So a timeout has room for one attempt at
its start and one for each interval begun. A probe that answers at once and never converges fills
that room.
-/
namespace ComposeHarness

/-- The most attempts that a poll can make: the first one, and one for each interval of the timeout,
a broken one included. -/
def PollSpec.attemptRoom (spec : PollSpec) : Nat :=
  spec.timeout.nanos ⌈/⌉ spec.interval.nanos + 1

namespace Poll

variable {σ α : Type} {what : String} {spec : PollSpec} {render : α → String} {probe : Probe σ α}
  {first world : σ} {elapsed : Duration} {past : List (Attempt α)} {limit : Nat} {r : PollRun σ α}

/-! ### The number of attempts -/

/-- An attempt has an interval behind it for each attempt before it, or starts on the deadline. -/
theorem Reach.min_le (reach : Reach spec probe first elapsed world past) :
    min (past.length * spec.interval.nanos) spec.timeout.nanos ≤ elapsed.nanos := by
  induction reach with
  | start => simp
  | @sleep elapsed world next past made reach tried waiting early ih =>
    have hfinish := attempt_start_le_finish tried
    have hlength : (made :: past).length * spec.interval.nanos =
        past.length * spec.interval.nanos + spec.interval.nanos := by
      rw [List.length_cons, Nat.add_one_mul]
    simp only [hlength, pause, Duration.le_def, Duration.nanos_add, Duration.nanos_min,
      Duration.nanos_sub] at early hfinish ⊢
    omega

/-- Before the last attempt there is at most one for each interval. -/
theorem Reach.length_le (positive : .zero < spec.interval)
    (reach : Reach spec probe first elapsed world past) :
    past.length ≤ spec.timeout.nanos ⌈/⌉ spec.interval.nanos := by
  cases reach with
  | start => exact Nat.zero_le _
  | @sleep elapsed world _ past made reach tried waiting early =>
    have hfinish := attempt_start_le_finish tried
    have hmin := reach.min_le
    have hroom : spec.interval.nanos * past.length < spec.timeout.nanos := by
      rw [Nat.mul_comm]
      simp only [Duration.le_def] at early hfinish
      omega
    have hlt := lt_of_not_ge (mt (ceilDiv_le_iff_le_mul positive).1 (Nat.not_le_of_lt hroom))
    exact hlt

/-- A poll that may make as many attempts as there is room for ends. -/
theorem exists_go_eq_some (positive : .zero < spec.interval) (what : String) (render : α → String)
    (first : σ) (enough : spec.attemptRoom ≤ limit) :
    ∃ r, go what spec render probe limit .zero first [] = some r := by
  cases h : go what spec render probe limit .zero first [] with
  | some r => exact ⟨r, rfl⟩
  | none =>
    obtain ⟨elapsed, world, past, reach, hlength⟩ := exists_reach_of_go_eq_none .start h
    have hle := reach.length_le positive
    simp only [PollSpec.attemptRoom, List.length_nil] at enough hlength
    omega

/-- A round that ends the poll ends it alike for every limit that lets the poll get there. -/
theorem Ends.go_eq_some (reach : Reach spec probe first elapsed world past)
    (ends : Ends what spec render probe elapsed world past r) (enough : past.length < limit) :
    go what spec render probe limit .zero first [] = some r := by
  obtain ⟨more, rfl⟩ := Nat.exists_eq_add_of_lt enough
  have hgo : go what spec render probe (more + 1 + past.length) .zero first [] = some r :=
    (go_of_reach reach (more + 1)).trans (ends.go_succ more)
  rw [← hgo]
  congr 1
  omega

/-! ### The pauses -/

/-- From one attempt to the next the poll pauses for its interval. If that would pass the deadline
the next attempt starts on the deadline, and none follows. -/
def Paced (spec : PollSpec) (as : List (Attempt α)) : Prop :=
  ∀ before a b after, as = before ++ a :: b :: after →
    (a.finish + spec.interval ≤ spec.timeout → b.start = a.finish + spec.interval) ∧
    (spec.timeout < a.finish + spec.interval → b.start = spec.timeout ∧ after = [])

theorem paced_of_slept {as : List (Attempt α)} (forward : ∀ a ∈ as, a.start ≤ a.finish)
    (slept : as.IsChain fun earlier later => SleptUntil spec earlier later.start) :
    Paced spec as := by
  rintro before a b after rfl
  obtain ⟨-, ⟨early, wake⟩, later⟩ := List.isChain_append_cons_cons.1 slept
  have hb : b.start ≤ b.finish := forward b (by simp)
  simp only [Duration.lt_def] at early
  constructor
  · intro room
    apply Duration.ext
    simp only [Duration.le_def, Duration.nanos_add] at room ⊢
    omega
  · intro passes
    have hstart : b.start = spec.timeout := by
      apply Duration.ext
      simp only [Duration.lt_def, Duration.nanos_add] at passes
      omega
    refine ⟨hstart, ?_⟩
    cases after with
    | nil => rfl
    | cons c after =>
      -- the poll sleeps only after an attempt that ends before the deadline
      have hearly : b.finish < spec.timeout := (List.isChain_cons_cons.1 later).1.1
      exact absurd (hstart ▸ hb) (Nat.not_le_of_lt hearly)

/-! ### Probes that answer at once -/

/-- The replies to the first calls of the probe come at once. -/
def AnswersAtOnce (probe : Probe σ α) (first : σ) (calls : Nat) : Prop :=
  ∀ n < calls, ∃ answer, (probe (probe.worldAfter first n)).1 = .after .zero answer

/-- None of the replies to the first calls of the probe says that it has converged. -/
def StaysPending (probe : Probe σ α) (first : σ) (calls : Nat) : Prop :=
  ∀ n < calls, ∀ delay value,
    (probe (probe.worldAfter first n)).1 ≠ .after delay (.ok (.converged value))

theorem IsAttempt.finish_eq_start {n calls : Nat} {a : Attempt α}
    (atOnce : AnswersAtOnce probe first calls) (called : n < calls)
    (h : IsAttempt spec probe first n a) : a.finish = a.start := by
  obtain ⟨past, -, -, tried⟩ := h
  obtain ⟨answer, hanswer⟩ := atOnce n called
  have hreply := (attempt_spec spec probe a.start (probe.worldAfter first n)).2
  rw [tried, hanswer] at hreply
  obtain ⟨delay, answer', hdelay, -, -, hfinish⟩ | ⟨hlate, -, -⟩ := hreply
  · cases hdelay
    exact hfinish
  · exact absurd (hlate .zero answer rfl) (Nat.not_lt_zero _)

/-- If no time passes in the attempts, it passes in the pauses alone. -/
theorem Reach.elapsed_eq (reach : Reach spec probe first elapsed world past)
    (atOnce : AnswersAtOnce probe first past.length) :
    elapsed.nanos = min (past.length * spec.interval.nanos) spec.timeout.nanos := by
  induction reach with
  | start => simp
  | @sleep elapsed world next past made reach tried waiting early ih =>
    have hfinish : made.finish = elapsed :=
      ((reach.isAttempt tried).1.finish_eq_start atOnce (Nat.lt_succ_self _)).trans
        (attempt_start tried)
    have helapsed := ih fun n hn => atOnce n (Nat.lt_succ_of_lt hn)
    have hlength : (made :: past).length * spec.interval.nanos =
        past.length * spec.interval.nanos + spec.interval.nanos := by
      rw [List.length_cons, Nat.add_one_mul]
    simp only [hlength, hfinish, pause, Duration.le_def, Duration.nanos_add, Duration.nanos_min,
      Duration.nanos_sub] at early ⊢
    omega

theorem IsAttempt.start_eq {n calls : Nat} {a : Attempt α}
    (atOnce : AnswersAtOnce probe first calls) (called : n < calls)
    (h : IsAttempt spec probe first n a) :
    a.start.nanos = min (n * spec.interval.nanos) spec.timeout.nanos := by
  obtain ⟨past, rfl, reach, -⟩ := h
  exact reach.elapsed_eq fun n hn => atOnce n (Nat.lt_trans hn called)

/-- Only a reply that says so makes an attempt converge. -/
theorem StaysPending.value?_eq_none {n calls : Nat} {a : Attempt α}
    (pending : StaysPending probe first calls) (called : n < calls)
    (h : IsAttempt spec probe first n a) : a.value? = none := by
  obtain ⟨past, -, -, tried⟩ := h
  cases hvalue : a.value? with
  | none => rfl
  | some value =>
    have hreply := (attempt_spec spec probe a.start (probe.worldAfter first n)).2
    rw [tried, Attempt.value?_eq_some_iff.1 hvalue] at hreply
    obtain ⟨delay, answer, hdelay, -, hanswer, -⟩ | ⟨-, hcut, -⟩ := hreply
    · cases hanswer
      exact absurd hdelay (pending n called delay value)
    · cases hcut

/-- A poll that answers at once and does not converge uses all its room. -/
theorem Ends.length_eq (positive : .zero < spec.interval)
    (reach : Reach spec probe first elapsed world past)
    (ends : Ends what spec render probe elapsed world past r)
    (atOnce : AnswersAtOnce probe first r.attempts.length)
    (pending : StaysPending probe first r.attempts.length) :
    r.attempts.length = spec.attemptRoom := by
  obtain ⟨-, hlength, -⟩ := ends.areAttempts reach
  rw [hlength] at atOnce pending ⊢
  cases ends with
  | converged tried h =>
    have hnone := pending.value?_eq_none (Nat.lt_succ_self _) (reach.isAttempt tried).1
    cases hnone.symm.trans h
  | timedOut tried waiting late =>
    have hfinish := ((reach.isAttempt tried).1.finish_eq_start atOnce (Nat.lt_succ_self _)).trans
      (attempt_start tried)
    have helapsed := reach.elapsed_eq fun n hn => atOnce n (Nat.lt_succ_of_lt hn)
    have hfilled : spec.timeout.nanos ≤ spec.interval.nanos * past.length := by
      rw [Nat.mul_comm]
      simp only [hfinish, Duration.le_def] at late
      omega
    have hle := reach.length_le positive
    have hge := (ceilDiv_le_iff_le_mul positive).2 hfilled
    exact congrArg (· + 1) (Nat.le_antisymm hle hge)

/-- A poll whose interval is not zero ends after no more attempts than its timeout has room for,
the same way for every limit that is no less; so the count of attempts does not overflow if the room
is below 2 ^ 32. Its pauses are one interval long but for a last one that the deadline cuts short.
If its attempts are answered at once, the `n`-th of them, counted from zero, starts after `n` intervals
or on the deadline, and they fill the room unless one of them converges. -/
theorem go_keeps_to_its_room (what : String) (spec : PollSpec) (render : α → String)
    (probe : Probe σ α) (first : σ) (positive : .zero < spec.interval) :
    ∃ r, (∀ limit, spec.attemptRoom ≤ limit →
        go what spec render probe limit .zero first [] = some r) ∧
      (spec.attemptRoom < Nat.pow 2 32 → run what spec render probe first = some r) ∧
      r.attempts.length ≤ spec.attemptRoom ∧
      r.world = probe.worldAfter first r.attempts.length ∧
      Paced spec r.attempts ∧
      (AnswersAtOnce probe first r.attempts.length →
        (∀ n a, r.attempts[n]? = some a →
          a.start.nanos = min (n * spec.interval.nanos) spec.timeout.nanos) ∧
        (StaysPending probe first r.attempts.length →
          r.attempts.length = spec.attemptRoom)) := by
  obtain ⟨r, hr⟩ : ∃ r, go what spec render probe spec.attemptRoom .zero first [] = some r :=
    exists_go_eq_some positive what render first le_rfl
  obtain ⟨elapsed, world, past, reach, ends⟩ := exists_ends_of_go .start hr
  obtain ⟨attempts, hlength, hworld⟩ := ends.areAttempts reach
  have hroom : past.length < spec.attemptRoom := Nat.lt_succ_of_le (reach.length_le positive)
  have hends : ∀ limit, spec.attemptRoom ≤ limit →
      go what spec render probe limit .zero first [] = some r :=
    fun limit enough => ends.go_eq_some reach (Nat.lt_of_lt_of_le hroom enough)
  have hforward : ∀ a ∈ r.attempts, a.start ≤ a.finish := by
    intro a ha
    obtain ⟨n, hn⟩ := List.mem_iff_getElem?.1 ha
    obtain ⟨-, -, -, tried⟩ := attempts n a hn
    exact attempt_start_le_finish tried
  refine ⟨r, hends, fun small => hends _ (Nat.le_sub_one_of_lt small), hlength ▸ hroom, hworld,
    paced_of_slept hforward (ends.keepsDeadline reach.onTime).slept, fun atOnce =>
    ⟨fun n a hn => ?_, ends.length_eq positive reach atOnce⟩⟩
  exact (attempts n a hn).start_eq atOnce (List.getElem?_eq_some_iff.1 hn).1

/-- Says at once, and forever, that it is not there yet. -/
def restless : Probe Nat String := fun n => (.after .zero (.ok (.pending "starting")), n + 1)

/-- A timeout of four seconds has room for three attempts with an interval of three: one at the
start, one after an interval, and one on the deadline. -/
def restlessRun : PollRun Nat String where
  outcome := .error (.unconverged "up" (some "starting") (.ofSeconds 4))
  attempts := [⟨.zero, .zero, some (.ok (.pending "starting"))⟩,
    ⟨.ofSeconds 3, .ofSeconds 3, some (.ok (.pending "starting"))⟩,
    ⟨.ofSeconds 4, .ofSeconds 4, some (.ok (.pending "starting"))⟩]
  elapsed := .ofSeconds 4
  world := 3

theorem restless_keeps_to_its_room :
    Duration.zero < .ofSeconds 3 ∧ AnswersAtOnce restless 0 3 ∧ StaysPending restless 0 3 ∧
      PollSpec.attemptRoom ⟨.ofSeconds 3, .ofSeconds 4⟩ < Nat.pow 2 32 ∧
      run "up" ⟨.ofSeconds 3, .ofSeconds 4⟩ id restless 0 = some restlessRun ∧
      restlessRun.attempts.length = PollSpec.attemptRoom ⟨.ofSeconds 3, .ofSeconds 4⟩ ∧
      Paced ⟨.ofSeconds 3, .ofSeconds 4⟩ restlessRun.attempts := by
  have positive : Duration.zero < .ofSeconds 3 := by decide
  have atOnce : AnswersAtOnce restless 0 3 := fun n _ => ⟨_, rfl⟩
  have pending : StaysPending restless 0 3 := by
    intro n _ delay value h
    cases h
  have small : PollSpec.attemptRoom ⟨.ofSeconds 3, .ofSeconds 4⟩ < Nat.pow 2 32 := by decide
  have three : go "up" ⟨.ofSeconds 3, .ofSeconds 4⟩ id restless 3 .zero 0 [] =
      some restlessRun := by rfl
  obtain ⟨r, hgo, hrun, -, -, paced, filled⟩ :=
    go_keeps_to_its_room "up" ⟨.ofSeconds 3, .ofSeconds 4⟩ id restless 0 positive
  obtain rfl : r = restlessRun := Option.some.inj ((hgo 3 (by decide)).symm.trans three)
  exact ⟨positive, atOnce, pending, small, hrun small, (filled atOnce).2 pending, paced⟩

end Poll
end ComposeHarness
