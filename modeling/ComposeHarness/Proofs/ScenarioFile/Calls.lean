import ComposeHarness.Proofs.Host.Watched
import ComposeHarness.ScenarioFile.Execution

/-!
# What actions do at their host

Actions run the binary and request URLs. On a watched host they do what they do on the host itself,
and the log has nothing in it but commands and requests.
-/
namespace ComposeHarness

open Watched (AllOf Follows FollowsChange follows_bind_run follows_forM_run follows_ofExcept_run)

variable {ε σ : Type}

/-- A command or a request. -/
inductive HostCall.IsReach : HostCall → Prop where
  | spawned (invocation : Invocation) (outcome : Except SystemError Completion) :
      IsReach (.spawned invocation outcome)
  | requested (url : String) (outcome : Except Failure Response) :
      IsReach (.requested url outcome)

variable {event : HostCall → ε} {P : ε → Prop}

/-- A command notes itself. -/
theorem follows_spawn (reach : ∀ call, call.IsReach → P (event call)) (host : Host σ)
    (i : Invocation) : Follows (AllOf P) ((host.watched event).spawn i) (host.spawn i) :=
  Watched.follows_noteOutcome (fun outcome => by simpa [AllOf] using reach _ (.spawned i outcome)) _

theorem follows_request (reach : ∀ call, call.IsReach → P (event call)) (host : Host σ)
    (url : String) : Follows (AllOf P) ((host.watched event).request url) (host.request url) :=
  Watched.follows_noteOutcome
    (fun outcome => by simpa [AllOf] using reach _ (.requested url outcome)) _

section
variable (reach : ∀ call, call.IsReach → P (event call)) (host : Host σ)
include reach

theorem Session.follows_runAllowingError (s : Session) (arguments : List String) :
    Follows (AllOf P) (s.runAllowingError (host.watched event) arguments).run
      (s.runAllowingError host arguments).run := by
  refine follows_bind_run ((follows_spawn reach host _).map Except.ok) fun outcome => ?_
  cases outcome with
  | error cause => exact follows_ofExcept_run _
  | ok done => exact follows_ofExcept_run (.ok (s.result arguments done))

theorem Session.follows_run (s : Session) (arguments : List String) :
    Follows (AllOf P) (s.run (host.watched event) arguments).run (s.run host arguments).run :=
  follows_bind_run (s.follows_runAllowingError reach host arguments) fun _ => follows_ofExcept_run _

theorem Session.follows_inspect (s : Session) (kind : ObjectKind) (name : String) :
    Follows (AllOf P) (s.inspect (host.watched event) kind name).run
      (s.inspect host kind name).run :=
  follows_bind_run (s.follows_run reach host _) fun _ => follows_ofExcept_run _

theorem CommandProbe.followsChange_probe (p : CommandProbe) :
    FollowsChange (AllOf P) (p.probe (host.watched event)) (p.probe host) := by
  intro world past
  obtain ⟨made, hrun, hmade⟩ :=
    p.session.follows_runAllowingError reach host p.arguments .zero world past
  exact ⟨made, by simp [CommandProbe.probe, hrun], hmade⟩

theorem HttpProbe.followsChange_probe (p : HttpProbe) :
    FollowsChange (AllOf P) (p.probe (host.watched event)) (p.probe host) := by
  intro world past
  obtain ⟨made, hrun, hmade⟩ := follows_request reach host p.url .zero world past
  refine ⟨made, ?_, hmade⟩
  simp only [HttpProbe.probe, hrun]
  split <;> rfl

theorem HttpProbe.follows_fetch (url : String) (expected : Nat) (spec : PollSpec) :
    Follows (AllOf P) (fetch (host.watched event) url expected spec).run
      (fetch host url expected spec).run :=
  follows_bind_run (Watched.follows_timed (followsChange_probe reach host _) _ spec _)
    fun _ => Watched.follows_pure_run _

theorem Context.follows_await (ctx : Context) (arguments : List String) (e : Expectation) :
    Follows (AllOf P) (ctx.await (host.watched event) arguments e).run
      (ctx.await host arguments e).run :=
  follows_bind_run (follows_ofExcept_run _) fun p =>
    Watched.follows_timed (p.followsChange_probe reach host) _ ctx.poll _

/-- An action notes the commands and requests that it makes. -/
theorem Action.follows_perform (ctx : Context) (a : Action) :
    Follows (AllOf P) (a.perform (host.watched event) ctx).run (a.perform host ctx).run := by
  cases a with
  | run arguments allowError exitCode expect =>
    refine follows_bind_run (follows_ofExcept_run _) fun expanded => ?_
    dsimp only
    split
    · exact follows_bind_run (ctx.session.follows_runAllowingError reach host expanded)
        fun r => follows_ofExcept_run _
    · exact follows_bind_run (ctx.session.follows_run reach host expanded)
        fun r => follows_ofExcept_run _
  | httpGet url status timing expect =>
    refine follows_bind_run (follows_ofExcept_run _) fun expanded => ?_
    exact follows_bind_run (HttpProbe.follows_fetch reach host expanded status _)
      fun body => follows_ofExcept_run _
  | waitFor arguments expect timing =>
    refine follows_bind_run (follows_ofExcept_run _) fun expanded => ?_
    refine follows_bind_run (follows_ofExcept_run _) fun e => ?_
    exact follows_bind_run ((ctx.withPoll _).follows_await reach host expanded e)
      fun _ => Watched.follows_pure_run _
  | inspectLabels target kind labels =>
    refine follows_bind_run (follows_ofExcept_run _) fun target => ?_
    refine follows_bind_run (follows_ofExcept_run _) fun labels => ?_
    exact follows_bind_run (ctx.session.follows_inspect reach host kind target)
      fun _ => follows_ofExcept_run _
  | inspectMounts target mounts =>
    refine follows_bind_run (follows_ofExcept_run _) fun target => ?_
    refine follows_bind_run (follows_ofExcept_run _) fun mounts => ?_
    exact follows_bind_run (ctx.session.follows_inspect reach host .container target)
      fun _ => follows_ofExcept_run _

theorem Action.follows_performAll (ctx : Context) (actions : List Action) :
    Follows (AllOf P) (performAll (host.watched event) ctx actions).run
      (performAll host ctx actions).run :=
  follows_forM_run actions fun a _ => a.follows_perform reach host ctx

theorem StepDefinition.follows_action (kind : StepKind) (d : StepDefinition) (ctx : Context) :
    Follows (AllOf P) ((d.toStep (host.watched event) kind).action ctx)
      ((d.toStep host kind).action ctx) :=
  (Action.follows_performAll reach host ctx d.actions).map Ending.ofExcept

end
end ComposeHarness
