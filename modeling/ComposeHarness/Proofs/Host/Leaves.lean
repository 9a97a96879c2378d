import ComposeHarness.Proofs.Command.Capture
import ComposeHarness.Proofs.Expectation.Holding
import ComposeHarness.Proofs.Host.Watched
import ComposeHarness.Scenario.Reach

/-!
# What is left in the log

What a computation on a watched host adds to the log belongs to what it gives. A command adds its
one invocation. A poll adds one call for each of its attempts, and if it converges, the last of
these is the one that it converged with.
-/
namespace ComposeHarness

variable {ε σ α β : Type}

namespace Watched

/-- What a computation gives and what it adds to the log satisfy `Q`. -/
def Leaves (Q : Except Failure α → List ε → Prop) (x : Act (Watched ε σ) α) : Prop :=
  ∀ (now : Duration) (world : σ) (past : List ε),
    let span := x.run.run now (world, past)
    ∃ made, span.world.2 = past ++ made ∧ Q span.value made

section
variable {Q : Except Failure α → List ε → Prop} {S : Except Failure β → List ε → Prop}
  {x : Act (Watched ε σ) α} {f : α → Act (Watched ε σ) β}

theorem Leaves.imp {R : Except Failure α → List ε → Prop} (h : Leaves Q x)
    (imp : ∀ value made, Q value made → R value made) : Leaves R x := by
  intro now world past
  obtain ⟨made, hmade, hQ⟩ := h now world past
  exact ⟨made, hmade, imp _ made hQ⟩

theorem leaves_ofExcept {outcome : Except Failure α} (h : Q outcome []) :
    Leaves Q (Act.ofExcept outcome : Act (Watched ε σ) α) := by
  intro now world past
  exact ⟨[], by simp, h⟩

/-- One after the other, two computations leave what the one leaves and then what the other does,
unless the first one fails. -/
theorem Leaves.bind {T : α → Except Failure β → List ε → Prop} (hx : Leaves Q x)
    (hf : ∀ a, Leaves (T a) (f a))
    (stops : ∀ failure made, Q (.error failure) made → S (.error failure) made)
    (goes : ∀ a value made later, Q (.ok a) made → T a value later → S value (made ++ later)) :
    Leaves S (x >>= f) := by
  intro now world past
  obtain ⟨made, hmade, hQ⟩ := hx now world past
  simp only [ExceptT.run_bind, Timed.run_bind]
  cases hv : (x.run.run now (world, past)).value with
  | error failure =>
    rw [hv] at hQ
    exact ⟨made, hmade, stops failure made hQ⟩
  | ok a =>
    rw [hv] at hQ
    obtain ⟨later, hlater, hT⟩ := hf a (now + (x.run.run now (world, past)).spent)
      (x.run.run now (world, past)).world.1 (past ++ made)
    rw [← hmade] at hlater hT
    exact ⟨made ++ later, by rw [← List.append_assoc, ← hmade]; exact hlater,
      goes a _ made later hQ hT⟩

theorem leaves_ofExcept_bind {outcome : Except Failure α}
    (stops : ∀ failure, outcome = .error failure → S (.error failure) [])
    (goes : ∀ a, outcome = .ok a → Leaves S (f a)) : Leaves S (Act.ofExcept outcome >>= f) := by
  cases outcome with
  | error failure => exact leaves_ofExcept (stops failure rfl)
  | ok a =>
    have hpure : (Act.ofExcept (.ok a) : Act (Watched ε σ) α) = pure a := rfl
    rw [hpure, pure_bind]
    exact goes a rfl

theorem Leaves.bind_ofExcept (hx : Leaves Q x) {g : α → Except Failure β}
    (h : ∀ value made, Q value made → S (value >>= g) made) :
    Leaves S (x >>= fun a => Act.ofExcept (g a)) := by
  refine hx.bind (T := fun a value later => value = g a ∧ later = [])
    (fun a => leaves_ofExcept ⟨rfl, rfl⟩) (fun failure made hQ => h _ made hQ) ?_
  rintro a value made later hQ ⟨rfl, rfl⟩
  rw [List.append_nil]
  exact h _ made hQ

end

/-! ### Polls -/

/-- A probe notes one event each time. All of these satisfy `P`, and `C` relates the value that an
answer converges to with the event. -/
def CallsOnce (P : ε → Prop) (C : α → ε → Prop) (probe : Probe (Watched ε σ) α) : Prop :=
  ∀ (world : σ) (past : List ε), ∃ event, (probe (world, past)).2.2 = past ++ [event] ∧ P event ∧
    ∀ delay value, (probe (world, past)).1 = .after delay (.ok (.converged value)) → C value event

variable {P : ε → Prop} {C : α → ε → Prop} {probe : Probe (Watched ε σ) α}

theorem CallsOnce.exists_worldAfter (h : CallsOnce P C probe) (world : σ) (past : List ε)
    (n : Nat) : ∃ made, (probe.worldAfter (world, past) n).2 = past ++ made ∧ AllOf P made := by
  induction n with
  | zero => exact ⟨[], by simp [Probe.worldAfter], allOf_nil P⟩
  | succ n ih =>
    obtain ⟨made, hmade, hall⟩ := ih
    obtain ⟨event, hevent, hP, -⟩ := h (probe.worldAfter (world, past) n).1 (past ++ made)
    rw [← hmade] at hevent
    refine ⟨made ++ [event], ?_, hall.append (by simpa [AllOf] using hP)⟩
    rw [← List.append_assoc, ← hmade]
    exact hevent

/-- An attempt converges to what the probe has said. -/
theorem exists_reply_of_attempt {spec : PollSpec} {elapsed : Duration} {world next : Watched ε σ}
    {made : Attempt α} {value : α} (tried : Poll.attempt spec probe elapsed world = (made, next))
    (h : made.value? = some value) :
    ∃ delay, (probe world).1 = .after delay (.ok (.converged value)) := by
  obtain ⟨-, hanswer⟩ := Poll.attempt_spec spec probe elapsed world
  rw [tried] at hanswer
  rw [Attempt.value?_eq_some_iff] at h
  obtain ⟨delay, answer, replied, -, told, -⟩ | ⟨-, silent, -⟩ := hanswer
  · cases told.symm.trans h
    exact ⟨delay, replied⟩
  · cases silent.symm.trans h

/-- A poll notes the calls of its attempts. If it converges, it does so with the last of them. -/
theorem CallsOnce.leaves_timed (h : CallsOnce P C probe) (what : String) (spec : PollSpec)
    (render : α → String) :
    Leaves (fun value made => AllOf P made ∧
        ∀ v, value = .ok v → ∃ before last, made = before ++ [last] ∧ C v last)
      (ExceptT.mk (Poll.timed what spec render probe)) := by
  intro now world past
  simp only [ExceptT.run_mk, Timed.run, Poll.timed, Poll.run]
  cases hgo : Poll.go what spec render probe Poll.attemptLimit .zero (world, past) [] with
  | none => exact ⟨[], by simp, allOf_nil P, by simp⟩
  | some r =>
    obtain ⟨elapsed, world', past', reach, ends⟩ := Poll.exists_ends_of_go .start hgo
    -- The attempts before the last one have noted a call each; the last one is still to come.
    obtain ⟨before, hbefore, hall⟩ := h.exists_worldAfter world past past'.length
    rw [← reach.world_eq] at hbefore
    obtain ⟨event, hevent, hP, hC⟩ := h world'.1 world'.2
    have hmade : AllOf P (before ++ [event]) := hall.append (by simpa [AllOf] using hP)
    have hlog : ∀ {made next}, Poll.attempt spec probe elapsed world' = (made, next) →
        next.2 = past ++ (before ++ [event]) := by
      intro made next tried
      have hnext : next = (probe world').2 := by
        rw [← Poll.attempt_world spec probe elapsed, tried]
      rw [← List.append_assoc, ← hbefore, hnext]
      exact hevent
    cases ends with
    | converged tried hvalue =>
      refine ⟨before ++ [event], hlog tried, hmade, ?_⟩
      intro v hv
      cases hv
      obtain ⟨delay, replied⟩ := exists_reply_of_attempt tried hvalue
      exact ⟨before, event, rfl, hC delay _ replied⟩
    | timedOut tried _ _ => exact ⟨before ++ [event], hlog tried, hmade, by simp⟩

end Watched

open Watched (AllOf CallsOnce Leaves)

/-! ### Commands and requests -/

theorem Host.run_watched_spawn (host : Host σ) (i : Invocation) (now : Duration) (world : σ)
    (past : List HostCall) :
    ((host.watched id).spawn i).run now (world, past) =
      let called := (host.spawn i).run now world
      ⟨called.value, called.spent, (called.world, past ++ [.spawned i called.value])⟩ := by
  simp [Host.watched, Watched.noteOutcome]

theorem Host.run_watched_request (host : Host σ) (url : String) (now : Duration) (world : σ)
    (past : List HostCall) :
    ((host.watched id).request url).run now (world, past) =
      let called := (host.request url).run now world
      ⟨called.value, called.spent, (called.world, past ++ [.requested url called.value])⟩ := by
  simp [Host.watched, Watched.noteOutcome]

namespace Session

variable (host : Host σ) (s : Session) (arguments : List String)

/-- What comes of a command, by what comes of its invocation. -/
def resultOf (outcome : Except SystemError Completion) : Except Failure Command.Result :=
  (outcome.mapError (.spawn (s.commandLine arguments))).map (s.result arguments)

theorem resultOf_eq_ok_iff {s : Session} {arguments : List String}
    {outcome : Except SystemError Completion} {r : Command.Result} :
    s.resultOf arguments outcome = .ok r ↔
      ∃ done, outcome = .ok done ∧ s.result arguments done = r := by
  cases outcome <;> simp [resultOf, Except.mapError, Except.map]

theorem leaves_runAllowingError :
    Leaves (fun value made => ∃ outcome, made = [.spawned (s.invocation arguments) outcome] ∧
        value = s.resultOf arguments outcome)
      (s.runAllowingError (host.watched id) arguments) := by
  intro now world past
  rw [Command.runAllowingError_run, Host.run_watched_spawn]
  exact ⟨_, rfl, _, rfl, rfl⟩

theorem leaves_run :
    Leaves (fun value made => ∃ outcome, made = [.spawned (s.invocation arguments) outcome] ∧
        value = s.resultOf arguments outcome >>= Command.Result.requireSuccess)
      (s.run (host.watched id) arguments) := by
  refine (s.leaves_runAllowingError host arguments).bind_ofExcept ?_
  rintro value made ⟨outcome, rfl, rfl⟩
  exact ⟨outcome, rfl, rfl⟩

theorem leaves_inspect (kind : ObjectKind) (name : String) :
    Leaves (fun value made => ∃ outcome,
        made = [.spawned (s.invocation (kind.inspectArguments name)) outcome] ∧
        value = s.resultOf (kind.inspectArguments name) outcome >>=
          Command.Result.requireSuccess >>= firstObject kind name)
      (s.inspect (host.watched id) kind name) := by
  refine (s.leaves_run host (kind.inspectArguments name)).bind_ofExcept ?_
  rintro value made ⟨outcome, rfl, rfl⟩
  exact ⟨outcome, rfl, rfl⟩

end Session

theorem CommandProbe.observe_eq_converged {p : CommandProbe} {r : Command.Result} {text : String}
    (h : p.observe r = .ok (.converged text)) : p.expectation.Holds r := by
  rw [Expectation.Holds, ← Matcher.evaluate_eq_ok_true_iff]
  simp only [observe] at h
  split at h
  · assumption
  · simp at h
  · cases h

/-- A command that is polled is run once for each attempt, and converges if its output satisfies the
expectation. -/
theorem CommandProbe.callsOnce (host : Host σ) (p : CommandProbe) :
    CallsOnce (fun call => ∃ outcome, call = .spawned (p.session.invocation p.arguments) outcome)
      (fun _ call => ∃ done, call = .spawned (p.session.invocation p.arguments) (.ok done) ∧
        p.expectation.Holds (p.session.result p.arguments done))
      (p.probe (host.watched id)) := by
  intro world past
  simp only [probe, Command.runAllowingError_run, Host.run_watched_spawn]
  refine ⟨_, rfl, ⟨_, rfl⟩, fun delay text replied => ?_⟩
  obtain ⟨-, hanswer⟩ := Reply.after.inj replied
  obtain ⟨r, hr, hobserve⟩ := Sequence.bind_eq_ok_iff.1 hanswer
  obtain ⟨done, hdone, rfl⟩ := Session.resultOf_eq_ok_iff.1 hr
  exact ⟨done, by rw [hdone], observe_eq_converged hobserve⟩

/-- A URL that is polled is requested once for each attempt, and converges if the response has the
expected status. -/
theorem HttpProbe.callsOnce (host : Host σ) (p : HttpProbe) :
    CallsOnce (fun call => ∃ outcome, call = .requested p.url outcome)
      (fun response call => call = .requested p.url (.ok response) ∧ response.status = p.expected)
      (p.probe (host.watched id)) := by
  intro world past
  simp only [probe, Host.run_watched_request]
  split
  · exact ⟨_, rfl, ⟨_, rfl⟩, by simp⟩
  · refine ⟨_, rfl, ⟨_, rfl⟩, fun delay response replied => ?_⟩
    obtain ⟨-, hanswer⟩ := Reply.after.inj replied
    obtain ⟨answered, hcalled, hobserve⟩ := Sequence.map_eq_ok_iff.1 hanswer
    unfold observe at hobserve
    split at hobserve
    · next hstatus =>
      cases hobserve
      exact ⟨by rw [hcalled], hstatus⟩
    · cases hobserve

end ComposeHarness
