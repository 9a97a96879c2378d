import ComposeHarness.Proofs.ScenarioFile.Calls
import ComposeHarness.Proofs.ScenarioFile.Grounds

/-!
# The course of a step

The actions of a step are performed in their order, each of them once and from where the one before
it has ended, up to the first that fails. Its failure is that of the step, and what the step does at
its host is what the performed actions do, one after the other.
-/
namespace ComposeHarness.Action

open Watched (AllOf Follows)

variable {σ : Type} {host : Host σ} {ctx : Context}

/-- One performance of an action: where it starts, and the calls that it adds to the log. -/
structure Performance (host : Host σ) (ctx : Context) where
  action : Action
  start : Duration
  before : Watched HostCall σ
  calls : List HostCall
  noted : (action.perform (host.watched id) ctx).run.run start before =
    let span := (action.perform host ctx).run.run start before.1
    ⟨span.value, span.spent, (span.world, before.2 ++ calls)⟩

namespace Performance

variable (p : Performance host ctx)

def span : Span σ (Except Failure Unit) := (p.action.perform host ctx).run.run p.start p.before.1

def outcome : Except Failure Unit := p.span.value

/-- When the performance ends. -/
def finish : Duration := p.start + p.span.spent

/-- The world that it leaves behind. -/
def after : Watched HostCall σ := (p.span.world, p.before.2 ++ p.calls)

theorem run_plain : (p.action.perform host ctx).run.run p.start p.before.1 =
    ⟨p.outcome, p.span.spent, p.span.world⟩ := rfl

theorem run_watched : (p.action.perform (host.watched id) ctx).run.run p.start p.before =
    ⟨p.outcome, p.span.spent, p.after⟩ :=
  p.noted

/-- The calls are the action's own, and its success is grounded in them. -/
theorem accounts : p.action.Accounts ctx p.outcome p.calls := by
  obtain ⟨made, hmade, accounts⟩ :=
    leaves_perform host ctx p.action p.start p.before.1 p.before.2
  have watched : (p.action.perform (host.watched id) ctx).run.run p.start
      (p.before.1, p.before.2) = ⟨p.outcome, p.span.spent, p.after⟩ := p.run_watched
  -- Both tell of one log, so the calls that are noted are those that are accounted for.
  rw [watched] at hmade accounts
  obtain rfl : p.calls = made := List.append_cancel_left hmade
  exact accounts

/-- Every action can be performed from everywhere. -/
theorem exists_of_start (host : Host σ) (ctx : Context) (a : Action) (start : Duration)
    (before : Watched HostCall σ) :
    ∃ p : Performance host ctx, p.action = a ∧ p.start = start ∧ p.before = before := by
  have follows : Follows (AllOf fun _ => True) (a.perform (host.watched id) ctx).run
      (a.perform host ctx).run := follows_perform (fun _ _ => trivial) host ctx a
  obtain ⟨calls, noted, -⟩ := follows start before.1 before.2
  exact ⟨⟨a, start, before, calls, noted⟩, rfl, rfl, rfl⟩

end Performance

/-- Performances one after the other: each starts where the one before it has ended. -/
inductive InTurn : Duration → Watched HostCall σ → List (Performance host ctx) → Prop
  | nil (now : Duration) (before : Watched HostCall σ) : InTurn now before []
  | cons {p : Performance host ctx} {ps : List (Performance host ctx)}
      (rest : InTurn p.finish p.after ps) : InTurn p.start p.before (p :: ps)

/-- How a list of actions is performed from some start on. -/
structure Course (actions : List Action) (now : Duration) (before : Watched HostCall σ)
    (ps : List (Performance host ctx)) : Prop where
  inTurn : InTurn now before ps
  /-- They are performed in their order, with none left out up to the last. -/
  inOrder : ps.map Performance.action <+: actions
  /-- The calls of these performances are all that is done at the host. -/
  run_eq : (performAll (host.watched id) ctx actions).run.run now before =
    let span := (performAll host ctx actions).run.run now before.1
    ⟨span.value, span.spent, (span.world, before.2 ++ ps.flatMap Performance.calls)⟩
  ok_iff : ((performAll host ctx actions).run.run now before.1).value = .ok () ↔
    ps.map Performance.action = actions ∧ ∀ p ∈ ps, p.outcome = .ok ()
  error_iff (failure : Failure) :
    ((performAll host ctx actions).run.run now before.1).value = .error failure ↔
      ∃ earlier last, ps = earlier ++ [last] ∧ (∀ p ∈ earlier, p.outcome = .ok ()) ∧
        last.outcome = .error failure

section
variable {a : Action} {failure : Failure} {now spent : Duration} {world next : σ}

theorem performAll_run_of_error
    (h : (a.perform host ctx).run.run now world = ⟨.error failure, spent, next⟩)
    (actions : List Action) :
    (performAll host ctx (a :: actions)).run.run now world = ⟨.error failure, spent, next⟩ := by
  change (a.perform host ctx >>= fun _ => performAll host ctx actions).run.run now world = _
  simp only [ExceptT.run_bind, Timed.run_bind, h]
  simp

theorem performAll_run_of_ok
    (h : (a.perform host ctx).run.run now world = ⟨.ok (), spent, next⟩) (actions : List Action) :
    (performAll host ctx (a :: actions)).run.run now world =
      let later := (performAll host ctx actions).run.run (now + spent) next
      ⟨later.value, spent + later.spent, later.world⟩ := by
  change (a.perform host ctx >>= fun _ => performAll host ctx actions).run.run now world = _
  simp only [ExceptT.run_bind, Timed.run_bind, h]

end

namespace Course

theorem nil (host : Host σ) (ctx : Context) (now : Duration) (before : Watched HostCall σ) :
    Course [] now before ([] : List (Performance host ctx)) where
  inTurn := .nil now before
  inOrder := List.prefix_refl _
  run_eq := by simp [performAll]
  ok_iff := by simp [performAll]
  error_iff failure := by simp [performAll]

variable {p : Performance host ctx} {ps : List (Performance host ctx)} {actions : List Action}
  {failure : Failure}

/-- An action that fails is the last to be performed. -/
theorem failed (h : p.outcome = .error failure) (actions : List Action) :
    Course (p.action :: actions) p.start p.before [p] := by
  have hplain := performAll_run_of_error (p.run_plain.trans (by rw [h])) actions
  have hwatched := performAll_run_of_error (p.run_watched.trans (by rw [h])) actions
  refine ⟨.cons (.nil _ _), ⟨actions, rfl⟩, ?_, ?_, fun other => ?_⟩
  · rw [hwatched, hplain]
    simp [Performance.after]
  · simp [hplain, h]
  · rw [hplain]
    constructor
    · intro same
      exact ⟨[], p, rfl, by simp, h.trans same⟩
    · rintro ⟨earlier, last, split, -, hlast⟩
      cases earlier with
      | nil =>
        cases split
        exact h.symm.trans hlast
      | cons q earlier => simp at split

/-- After an action that succeeds the others take their course from where it has ended. -/
theorem next (h : p.outcome = .ok ()) (rest : Course actions p.finish p.after ps) :
    Course (p.action :: actions) p.start p.before (p :: ps) := by
  have hplain : (performAll host ctx (p.action :: actions)).run.run p.start p.before.1 =
      let later := (performAll host ctx actions).run.run p.finish p.after.1
      ⟨later.value, p.span.spent + later.spent, later.world⟩ :=
    performAll_run_of_ok (p.run_plain.trans (by rw [h]; rfl)) actions
  have hwatched : (performAll (host.watched id) ctx (p.action :: actions)).run.run p.start
        p.before =
      let later := (performAll (host.watched id) ctx actions).run.run p.finish p.after
      ⟨later.value, p.span.spent + later.spent, later.world⟩ :=
    performAll_run_of_ok (p.run_watched.trans (by rw [h])) actions
  refine ⟨.cons rest.inTurn, (List.prefix_cons_inj _).2 rest.inOrder, ?_, ?_, fun failure => ?_⟩
  · rw [hwatched, hplain, rest.run_eq]
    simp [Performance.after]
  · simp [hplain, rest.ok_iff, h]
  · rw [hplain]
    refine (rest.error_iff failure).trans ⟨?_, ?_⟩
    · rintro ⟨earlier, last, rfl, succeed, fails⟩
      exact ⟨p :: earlier, last, rfl, List.forall_mem_cons.2 ⟨h, succeed⟩, fails⟩
    · rintro ⟨earlier, last, split, succeed, fails⟩
      cases earlier with
      | nil =>
        cases split
        cases h.symm.trans fails
      | cons q earlier =>
        cases split
        exact ⟨earlier, last, rfl, (List.forall_mem_cons.1 succeed).2, fails⟩

end Course

/-- Every list of actions takes its course, whatever comes of the calls. -/
theorem exists_course (host : Host σ) (ctx : Context) (actions : List Action) (now : Duration)
    (before : Watched HostCall σ) :
    ∃ ps : List (Performance host ctx), Course actions now before ps := by
  induction actions generalizing now before with
  | nil => exact ⟨[], .nil host ctx now before⟩
  | cons a actions ih =>
    obtain ⟨p, rfl, rfl, rfl⟩ := Performance.exists_of_start host ctx a now before
    cases h : p.outcome with
    | error failure => exact ⟨[p], .failed h actions⟩
    | ok _ =>
      obtain ⟨ps, rest⟩ := ih p.finish p.after
      exact ⟨p :: ps, .next h rest⟩

/-- A step performs its actions in their order, each once, up to the first that fails; it succeeds
exactly if all of them do, and otherwise fails as the last that was performed. Nothing is done at
the host but the calls of these performances, so that none is made for an action after the first
that fails. The success of an action rests on the last of its calls. For a command that is waited
for this is its output alone: on a host whose processes end with other exit codes nothing changes. -/
theorem performAll_stops_at_first_failure (host : Host σ) (ctx : Context)
    (actions : List Action) (now : Duration) (world : σ) :
    (∃ ps : List (Performance host ctx), Course actions now (world, []) ps ∧
      ∀ p ∈ ps, AllOf (p.action.Makes ctx) p.calls ∧
        (p.outcome = .ok () → p.action.Grounds ctx p.calls)) ∧
    ∀ (status : Completion → ExitStatus) (arguments : List String) (expect : Expectation)
      (timing : Timing),
      (Action.waitFor arguments expect timing).perform (host.withStatus status) ctx =
        (Action.waitFor arguments expect timing).perform host ctx := by
  obtain ⟨ps, course⟩ := exists_course host ctx actions now (world, [])
  exact ⟨⟨ps, course, fun p _ => p.accounts⟩, fun status arguments expect timing =>
    perform_waitFor_withStatus host ctx status arguments expect timing⟩

end ComposeHarness.Action
