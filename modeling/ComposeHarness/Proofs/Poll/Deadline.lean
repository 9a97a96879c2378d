import Mathlib.Data.List.Chain
import ComposeHarness.Proofs.Poll.Loop

/-!
# Polls keep their deadline

No attempt of a poll starts after the deadline, so the poll ends within one interval after it. A
poll that gives up does so at the deadline or later, and its last attempt spans the deadline. The
time left before a pause is never negative.
-/
namespace ComposeHarness.Poll

variable {σ α : Type}

/-- The poll slept from the end of an attempt until `wake`: for the interval or until the deadline,
whichever is shorter. Differences are those of integers. -/
def SleptUntil (spec : PollSpec) (made : Attempt α) (wake : Duration) : Prop :=
  made.finish < spec.timeout ∧
    (wake.nanos : Int) = made.finish.nanos +
      min (spec.interval.nanos : Int) (spec.timeout.nanos - made.finish.nanos)

theorem sleptUntil_pause {spec : PollSpec} {made : Attempt α}
    (early : ¬spec.timeout ≤ made.finish) :
    SleptUntil spec made (made.finish + pause spec made.finish) := by
  simp only [SleptUntil, pause, Duration.le_def, Duration.lt_def, Duration.nanos_add,
    Duration.nanos_min, Duration.nanos_sub] at early ⊢
  omega

/-- A sleep does not pass the deadline. -/
theorem SleptUntil.le_timeout {spec : PollSpec} {made : Attempt α} {wake : Duration}
    (h : SleptUntil spec made wake) : wake ≤ spec.timeout := by
  obtain ⟨early, h⟩ := h
  simp only [Duration.lt_def, Duration.le_def] at early ⊢
  omega

/-- What holds when an attempt is about to start: the deadline has not passed, every attempt made
before started in time, and each was followed by a sleep until the next one. -/
structure OnTime (spec : PollSpec) (elapsed : Duration) (past : List (Attempt α)) : Prop where
  elapsed_le : elapsed ≤ spec.timeout
  start_le : ∀ a ∈ past, a.start ≤ spec.timeout
  slept : past.IsChain fun later earlier => SleptUntil spec earlier later.start
  slept_last : ∀ a ∈ past.head?, SleptUntil spec a elapsed

/-- The attempt that is about to start keeps the attempts on time. -/
theorem OnTime.chain_cons {spec : PollSpec} {elapsed : Duration} {past : List (Attempt α)}
    (h : OnTime spec elapsed past) {made : Attempt α} (start : made.start = elapsed) :
    (made :: past).IsChain fun later earlier => SleptUntil spec earlier later.start :=
  List.isChain_cons.2 ⟨fun a ha => start ▸ h.slept_last a ha, h.slept⟩

theorem OnTime.forall_start_le {spec : PollSpec} {elapsed : Duration} {past : List (Attempt α)}
    (h : OnTime spec elapsed past) {made : Attempt α} (start : made.start = elapsed) :
    ∀ a ∈ made :: past, a.start ≤ spec.timeout := by
  intro a ha
  rcases List.mem_cons.1 ha with rfl | ha
  · exact start ▸ h.elapsed_le
  · exact h.start_le a ha

/-- Every place that the loop can reach is on time. -/
theorem Reach.onTime {spec : PollSpec} {probe : Probe σ α} {first world : σ} {elapsed : Duration}
    {past : List (Attempt α)} (reach : Reach spec probe first elapsed world past) :
    OnTime spec elapsed past := by
  induction reach with
  | start => exact ⟨Nat.zero_le _, by simp, .nil, by simp⟩
  | sleep reach tried waiting early ih =>
    have start := attempt_start tried
    have slept := sleptUntil_pause early
    exact ⟨slept.le_timeout, ih.forall_start_le start, ih.chain_cons start,
      by simpa using slept⟩

/-- An attempt that starts in time ends within one interval after the deadline. -/
theorem finish_le_of_start_le {spec : PollSpec} {probe : Probe σ α} {elapsed : Duration}
    {world next : σ} {made : Attempt α} (tried : attempt spec probe elapsed world = (made, next))
    (h : elapsed ≤ spec.timeout) : made.finish ≤ spec.timeout + spec.interval := by
  have hf := attempt_finish_le tried
  simp only [budget, Duration.le_def, Duration.nanos_add, Duration.nanos_max,
    Duration.nanos_sub] at h hf ⊢
  omega

/-- What a finished poll says about its deadline. -/
structure KeepsDeadline (what : String) (spec : PollSpec) (r : PollRun σ α) : Prop where
  start_le : ∀ a ∈ r.attempts, a.start ≤ spec.timeout
  elapsed_le : r.elapsed ≤ spec.timeout + spec.interval
  slept : r.attempts.IsChain fun earlier later => SleptUntil spec earlier later.start
  /-- A poll that fails ran out of time, and its last attempt spans the deadline. -/
  timeout : ∀ failure, r.outcome = .error failure → ∃ seen last,
    failure = .unconverged what (some seen) r.elapsed ∧ spec.timeout ≤ r.elapsed ∧
      r.attempts.getLast? = some last ∧ last.start ≤ spec.timeout ∧ last.finish = r.elapsed

theorem Ends.keepsDeadline {what : String} {spec : PollSpec} {render : α → String}
    {probe : Probe σ α} {elapsed : Duration} {world : σ} {past : List (Attempt α)}
    {r : PollRun σ α} (ends : Ends what spec render probe elapsed world past r)
    (h : OnTime spec elapsed past) : KeepsDeadline what spec r := by
  cases ends with
  | converged tried value =>
    have start := attempt_start tried
    refine ⟨?_, finish_le_of_start_le tried h.elapsed_le, ?_, ?_⟩
    · simpa only [List.mem_reverse] using h.forall_start_le start
    · exact List.isChain_reverse.2 (h.chain_cons start)
    · intro failure hf
      cases hf
  | @timedOut made next tried waiting late =>
    have start := attempt_start tried
    refine ⟨?_, finish_le_of_start_le tried h.elapsed_le, ?_, ?_⟩
    · simpa only [List.mem_reverse] using h.forall_start_le start
    · exact List.isChain_reverse.2 (h.chain_cons start)
    · intro failure hf
      cases hf
      exact ⟨_, made, rfl, late, by simp, start ▸ h.elapsed_le, rfl⟩

/-- Whatever the probe does, a poll that returns keeps its deadline, however many attempts it may
make; `run` is the case in which they are counted in 32 bits. Every sleep of the loop, also of one
that never returns, has some time left. -/
theorem go_keeps_deadline (what : String) (spec : PollSpec) (render : α → String)
    (probe : Probe σ α) (world : σ) :
    (∀ limit r, go what spec render probe limit .zero world [] = some r →
      KeepsDeadline what spec r) ∧
    ∀ elapsed world' made past, Reach spec probe world elapsed world' (made :: past) →
      SleptUntil spec made elapsed := by
  constructor
  · intro limit r h
    obtain ⟨elapsed, world', past, reach, ends⟩ := exists_ends_of_go .start h
    exact ends.keepsDeadline reach.onTime
  · intro elapsed world' made past reach
    exact reach.onTime.slept_last made rfl

/-- Answers once, after two seconds, and hangs from then on. -/
def pendingThenHang : Probe Nat String := fun n =>
  (if n = 0 then .after (.ofSeconds 2) (.ok (.pending "starting")) else .never, n + 1)

/-- With a timeout of four seconds and an interval of three, the second attempt starts on the
deadline, after a sleep that was cut short, and is cut off one interval later. -/
def hangOnDeadline : PollRun Nat String where
  outcome := .error (.unconverged "up" (some (lastSeen id (.ofSeconds 3) none)) (.ofSeconds 7))
  attempts := [⟨.zero, .ofSeconds 2, some (.ok (.pending "starting"))⟩,
    ⟨.ofSeconds 4, .ofSeconds 7, none⟩]
  elapsed := .ofSeconds 7
  world := 2

theorem hangOnDeadline_keeps_deadline :
    go "up" ⟨.ofSeconds 3, .ofSeconds 4⟩ id pendingThenHang 2 .zero 0 [] = some hangOnDeadline ∧
      KeepsDeadline "up" ⟨.ofSeconds 3, .ofSeconds 4⟩ hangOnDeadline := by
  have h : go "up" ⟨.ofSeconds 3, .ofSeconds 4⟩ id pendingThenHang 2 .zero 0 [] =
      some hangOnDeadline := by rfl
  exact ⟨h, (go_keeps_deadline ..).1 2 _ h⟩

end ComposeHarness.Poll
