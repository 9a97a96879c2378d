import ComposeHarness.Proofs.Poll.Loop

/-!
# What a poll concludes from its last attempt

A poll ends with the first attempt that converges, at the moment of its answer, or with the first
one that ends on the deadline or later. In the second case the failure tells of that attempt and of
no other. An attempt that is cut off ends on the deadline or later, so it is always the last.
-/
namespace ComposeHarness.Poll

variable {σ α : Type} {what : String} {spec : PollSpec} {render : α → String} {probe : Probe σ α}
  {first world : σ} {elapsed : Duration} {past : List (Attempt α)} {limit : Nat} {r : PollRun σ α}

/-! ### How attempts are answered -/

/-- How the probe's reply answers an attempt: with what it says, when it says so, if that is within
the budget, and with nothing at the end of the budget if not. -/
inductive Answered (spec : PollSpec) (reply : Reply α) (a : Attempt α) : Prop where
  | inTime {delay : Duration} {answer : Except Failure (Observation α)}
      (replied : reply = .after delay answer) (within : delay ≤ budget spec a.start)
      (told : a.answer = some answer) (finish : a.finish = a.start + delay)
  | cutOff (late : ∀ delay answer, reply = .after delay answer → budget spec a.start < delay)
      (silent : a.answer = none) (finish : a.finish = a.start + budget spec a.start)

theorem IsAttempt.answered {n : Nat} {a : Attempt α} (h : IsAttempt spec probe first n a) :
    Answered spec (probe (probe.worldAfter first n)).1 a := by
  obtain ⟨past, -, -, tried⟩ := h
  have hreply := (attempt_spec spec probe a.start (probe.worldAfter first n)).2
  rw [tried] at hreply
  obtain ⟨delay, answer, replied, within, told, finish⟩ | ⟨late, silent, finish⟩ := hreply
  · exact .inTime replied within told finish
  · exact .cutOff late silent finish

/-- An attempt after which the poll goes on was answered in time, and has not converged. -/
def Unsettled (a : Attempt α) : Prop :=
  (∃ value, a.answer = some (.ok (.pending value))) ∨ ∃ failure, a.answer = some (.error failure)

theorem unsettled_of_value?_eq_none {a : Attempt α} (waiting : a.value? = none)
    (answered : a.answer ≠ none) : Unsettled a := by
  match h : a.answer with
  | none => exact absurd h answered
  | some (.error failure) => exact .inr ⟨failure, h⟩
  | some (.ok (.pending value)) => exact .inl ⟨value, h⟩
  | some (.ok (.converged value)) => cases waiting.symm.trans (Attempt.value?_eq_some_iff.2 h)

theorem Reach.unsettled (reach : Reach spec probe first elapsed world past) :
    ∀ a ∈ past, Unsettled a := by
  induction reach with
  | start => simp
  | @sleep elapsed world next past made reach tried waiting early ih =>
    have answered : made.answer ≠ none := by
      intro cut
      have hcut : (attempt spec probe elapsed world).1.answer = none := tried ▸ cut
      have late := timeout_le_finish hcut
      rw [tried] at late
      exact early late
    rw [List.forall_mem_cons]
    exact ⟨unsettled_of_value?_eq_none waiting answered, ih⟩

/-! ### How a timeout tells of an attempt -/

/-- A text that tells of an attempt that has not converged. -/
inductive TellsOf (spec : PollSpec) (render : α → String) (a : Attempt α) : String → Prop where
  | pending {value : α} (h : a.answer = some (.ok (.pending value))) :
      TellsOf spec render a (render value)
  | failed {failure : Failure} (h : a.answer = some (.error failure)) :
      TellsOf spec render a ("probe error: " ++ failure.message)
  | cutOff (h : a.answer = none) :
      TellsOf spec render a
        ("probe error: Internal error: probe gave no answer within " ++
          (budget spec a.start).exact)

theorem message_noAnswer (allowed : Duration) :
    "probe error: " ++ (noAnswer allowed).message =
      "probe error: Internal error: probe gave no answer within " ++ allowed.exact := by
  have split : "probe error: Internal error: probe gave no answer within " =
      "probe error: " ++ ("Internal error: " ++ "probe gave no answer within ") := by decide
  simp only [split, String.append_assoc]
  rfl

theorem tellsOf_lastSeen {a : Attempt α} (waiting : a.value? = none) :
    TellsOf spec render a (lastSeen render (budget spec a.start) a.answer) := by
  match h : a.answer with
  | none =>
    rw [lastSeen, message_noAnswer]
    exact .cutOff h
  | some (.error failure) => exact .failed h
  | some (.ok (.pending value)) => exact .pending h
  | some (.ok (.converged value)) => cases waiting.symm.trans (Attempt.value?_eq_some_iff.2 h)

/-! ### The end of a poll -/

/-- A finished poll and its last attempt. -/
structure Concludes (what : String) (spec : PollSpec) (render : α → String) (probe : Probe σ α)
    (first : σ) (r : PollRun σ α) (before : List (Attempt α)) (last : Attempt α) : Prop where
  attempts : r.attempts = before ++ [last]
  answered : ∀ n a, r.attempts[n]? = some a →
    Answered spec (probe (probe.worldAfter first n)).1 a
  /-- The probe is called once for each attempt, and not again. -/
  calls : r.world = probe.worldAfter first r.attempts.length
  /-- The poll returns at the moment its last attempt ends. -/
  elapsed : r.elapsed = last.finish
  unsettled : ∀ a ∈ before, Unsettled a
  converged : ∀ value, r.outcome = .ok value ↔ last.answer = some (.ok (.converged value))
  timedOut : (∀ value, r.outcome ≠ .ok value) → ∃ text,
    r.outcome = .error (.unconverged what (some text) r.elapsed) ∧ TellsOf spec render last text

theorem Ends.concludes (reach : Reach spec probe first elapsed world past)
    (ends : Ends what spec render probe elapsed world past r) :
    ∃ before last, Concludes what spec render probe first r before last := by
  obtain ⟨attempts, -, calls⟩ := ends.areAttempts reach
  have answered := fun n a h => (attempts n a h).answered
  have unsettled : ∀ a ∈ past.reverse, Unsettled a := by simpa using reach.unsettled
  cases ends with
  | @converged made next value tried h =>
    refine ⟨past.reverse, made, List.reverse_cons, answered, calls, rfl, unsettled, ?_, ?_⟩
    · intro value'
      rw [← Attempt.value?_eq_some_iff, h]
      simp
    · intro failed
      exact absurd rfl (failed value)
  | @timedOut made next tried waiting late =>
    refine ⟨past.reverse, made, List.reverse_cons, answered, calls, rfl, unsettled, ?_, ?_⟩
    · intro value
      rw [← Attempt.value?_eq_some_iff, waiting]
      simp
    · intro _
      have tells : TellsOf spec render made _ := tellsOf_lastSeen waiting
      rw [attempt_start tried] at tells
      exact ⟨_, rfl, tells⟩

/-- A poll that ends gives a value exactly if its last attempt converged to it in time, and gives it
at the moment of that answer. Otherwise its failure is a timeout that tells of the last attempt. All
attempts before were answered in time without converging, so one that is cut off is the last. This
holds for every limit of attempts; `run` is the case in which they are counted in 32 bits. -/
theorem go_concludes_from_last_attempt (what : String) (spec : PollSpec) (render : α → String)
    (probe : Probe σ α) (first : σ) {limit : Nat} {r : PollRun σ α}
    (ran : go what spec render probe limit .zero first [] = some r) :
    ∃ before last, Concludes what spec render probe first r before last ∧
      ∀ n a, r.attempts[n]? = some a → a.answer = none → n + 1 = r.attempts.length := by
  obtain ⟨elapsed, world, past, reach, ends⟩ := exists_ends_of_go .start ran
  obtain ⟨before, last, h⟩ := ends.concludes reach
  refine ⟨before, last, h, fun n a hn cut => ?_⟩
  rw [h.attempts, List.getElem?_append] at hn
  split at hn
  · next hlt =>
    have hunsettled := h.unsettled a (List.mem_of_getElem? hn)
    simp [Unsettled, cut] at hunsettled
  · next hge =>
    obtain ⟨hlast, -⟩ : n - before.length = 0 ∧ last = a := by
      simpa [List.getElem?_singleton] using hn
    rw [h.attempts, List.length_append, List.length_singleton]
    omega

/-- Is pending, then fails, then hangs. -/
def faltering : Probe Nat String := fun n =>
  (match n with
    | 0 => .after (.ofSeconds 1) (.ok (.pending "starting"))
    | 1 => .after .zero (.error (.http "connection refused"))
    | _ => .never, n + 1)

/-- The third attempt starts on the deadline and is cut off one interval later. The failure tells of
it, and not of the refused connection before. -/
def falteringRun : PollRun Nat String where
  outcome := .error (.unconverged "up"
    (some "probe error: Internal error: probe gave no answer within 2s") (.ofSeconds 6))
  attempts := [⟨.zero, .ofSeconds 1, some (.ok (.pending "starting"))⟩,
    ⟨.ofSeconds 3, .ofSeconds 3, some (.error (.http "connection refused"))⟩,
    ⟨.ofSeconds 4, .ofSeconds 6, none⟩]
  elapsed := .ofSeconds 6
  world := 3

theorem faltering_concludes_from_last_attempt :
    go "up" ⟨.ofSeconds 2, .ofSeconds 4⟩ id faltering 3 .zero 0 [] = some falteringRun ∧
      falteringRun.attempts[2]? = some ⟨.ofSeconds 4, .ofSeconds 6, none⟩ ∧
      2 + 1 = falteringRun.attempts.length ∧
      ∃ before last,
        Concludes "up" ⟨.ofSeconds 2, .ofSeconds 4⟩ id faltering 0 falteringRun before last := by
  have ran : go "up" ⟨.ofSeconds 2, .ofSeconds 4⟩ id faltering 3 .zero 0 [] =
      some falteringRun := by rfl
  have third : falteringRun.attempts[2]? = some ⟨.ofSeconds 4, .ofSeconds 6, none⟩ := rfl
  obtain ⟨before, last, h, cutOff⟩ :=
    go_concludes_from_last_attempt "up" ⟨.ofSeconds 2, .ofSeconds 4⟩ id faltering 0 ran
  exact ⟨ran, third, cutOff 2 _ third rfl, before, last, h⟩

end ComposeHarness.Poll
