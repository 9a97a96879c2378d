import ComposeHarness.Proofs.ScenarioFile.Judgement

/-!
# What the success of an action rests on

An action makes only calls of its own: it runs its command, requests its URL or inspects its object,
with the texts expanded. If it succeeds, then because of the last of these calls. A command or a URL
that is polled may have been tried before that, with whatever outcome.
-/
namespace ComposeHarness

open Watched (AllOf Leaves leaves_ofExcept_bind)

variable {σ : Type} {ctx : Context}

namespace Action

/-- The calls that an action may make, whatever comes of them. -/
inductive Makes (ctx : Context) : Action → HostCall → Prop
  | run {arguments expanded : List String} {allowError : Bool} {exitCode : Option Int}
      {expect : List Expectation} (texts : arguments.mapM ctx.expand = .ok expanded)
      (outcome : Except SystemError Completion) :
      Makes ctx (.run arguments allowError exitCode expect)
        (.spawned (ctx.session.invocation expanded) outcome)
  | httpGet {url target : String} {status : Nat} {timing : Timing} {expect : List Matcher}
      (text : ctx.expand url = .ok target) (outcome : Except Failure Response) :
      Makes ctx (.httpGet url status timing expect) (.requested target outcome)
  | waitFor {arguments expanded : List String} {expect : Expectation} {timing : Timing}
      (texts : arguments.mapM ctx.expand = .ok expanded)
      (outcome : Except SystemError Completion) :
      Makes ctx (.waitFor arguments expect timing)
        (.spawned (ctx.session.invocation expanded) outcome)
  | inspectLabels {target name : String} {kind : ObjectKind} {labels : Dict (Option String)}
      (text : ctx.expand target = .ok name) (outcome : Except SystemError Completion) :
      Makes ctx (.inspectLabels target kind labels)
        (.spawned (ctx.session.invocation (kind.inspectArguments name)) outcome)
  | inspectMounts {target name : String} {mounts : List Mount}
      (text : ctx.expand target = .ok name) (outcome : Except SystemError Completion) :
      Makes ctx (.inspectMounts target mounts)
        (.spawned (ctx.session.invocation (ObjectKind.container.inspectArguments name)) outcome)

/-- The object that an inspection has found, by the result of its command. -/
def Finds (s : Session) (kind : ObjectKind) (name : String) (done : Completion)
    (o : InspectedObject) : Prop :=
  let r := s.result (kind.inspectArguments name) done
  r.exitCode = 0 ∧ Session.firstObject kind name r = .ok o

/-- What the success of an action rests on, by the calls that it has made. -/
inductive Grounds (ctx : Context) : Action → List HostCall → Prop
  | run {arguments expanded : List String} {allowError : Bool} {exitCode : Option Int}
      {expect expectations : List Expectation} {done : Completion}
      (texts : arguments.mapM ctx.expand = .ok expanded)
      (operands : expect.mapM (·.mapOperand ctx.expand) = .ok expectations)
      (accepted : (ctx.session.result expanded done).ExitAccepted allowError exitCode)
      (holds : ∀ e ∈ expectations, e.Holds (ctx.session.result expanded done)) :
      Grounds ctx (.run arguments allowError exitCode expect)
        [.spawned (ctx.session.invocation expanded) (.ok done)]
  | httpGet {url target : String} {status : Nat} {timing : Timing}
      {expect matchers : List Matcher} {before : List HostCall} {response : Response}
      (text : ctx.expand url = .ok target)
      (operands : expect.mapM (·.mapOperand ctx.expand) = .ok matchers)
      (expected : response.status = status) (holds : ∀ m ∈ matchers, m.Holds response.body) :
      Grounds ctx (.httpGet url status timing expect)
        (before ++ [.requested target (.ok response)])
  | waitFor {arguments expanded : List String} {expect expectation : Expectation}
      {timing : Timing} {before : List HostCall} {done : Completion}
      (texts : arguments.mapM ctx.expand = .ok expanded)
      (operand : expect.mapOperand ctx.expand = .ok expectation)
      (holds : expectation.Holds (ctx.session.result expanded done)) :
      Grounds ctx (.waitFor arguments expect timing)
        (before ++ [.spawned (ctx.session.invocation expanded) (.ok done)])
  | inspectLabels {target name : String} {kind : ObjectKind}
      {labels expected : Dict (Option String)} {done : Completion} {o : InspectedObject}
      (text : ctx.expand target = .ok name)
      (values : ctx.expandLabels labels = .ok expected) (found : Finds ctx.session kind name done o)
      (matched : o.expectLabels expected = .ok ()) :
      Grounds ctx (.inspectLabels target kind labels)
        [.spawned (ctx.session.invocation (kind.inspectArguments name)) (.ok done)]
  | inspectMounts {target name : String} {mounts expected : List Mount} {done : Completion}
      {o : InspectedObject} (text : ctx.expand target = .ok name)
      (sources : mounts.mapM ctx.expandMount = .ok expected)
      (found : Finds ctx.session .container name done o)
      (matched : o.expectMounts expected = .ok ()) :
      Grounds ctx (.inspectMounts target mounts)
        [.spawned (ctx.session.invocation (ObjectKind.container.inspectArguments name)) (.ok done)]

/-- The calls are the action's own, and its success is grounded in them. -/
def Accounts (ctx : Context) (a : Action) (value : Except Failure Unit) (made : List HostCall) :
    Prop :=
  AllOf (a.Makes ctx) made ∧ (value = .ok () → a.Grounds ctx made)

/-- A text that cannot be expanded is a failure before the first call, and needs no grounds. -/
theorem leaves_ofExcept_bind_accounts {α : Type} {a : Action} {outcome : Except Failure α}
    {f : α → Act (Watched HostCall σ) Unit}
    (goes : ∀ x, outcome = .ok x → Leaves (a.Accounts ctx) (f x)) :
    Leaves (a.Accounts ctx) (Act.ofExcept outcome >>= f) :=
  leaves_ofExcept_bind (fun _ _ => ⟨Watched.allOf_nil _, by simp⟩) goes

end Action

/-! ### Polls of a step -/

section
variable (host : Host σ) (ctx : Context)

theorem Context.leaves_await (arguments : List String) (e : Expectation) :
    Leaves (fun value made =>
        AllOf (fun call => ∃ outcome,
          call = .spawned (ctx.session.invocation arguments) outcome) made ∧
        ∀ text, value = .ok text → ∃ before done,
          made = before ++ [.spawned (ctx.session.invocation arguments) (.ok done)] ∧
            e.Holds (ctx.session.result arguments done))
      (ctx.await (host.watched id) arguments e) := by
  refine leaves_ofExcept_bind (fun failure _ => ⟨Watched.allOf_nil _, by simp⟩) fun p made => ?_
  obtain rfl : ⟨ctx.session, arguments, e⟩ = p := by
    unfold CommandProbe.make at made
    split at made
    · exact Except.ok.inj made
    · cases made
  refine ((CommandProbe.callsOnce host _).leaves_timed _ ctx.poll _).imp fun value made h => ?_
  refine ⟨h.1, fun text hvalue => ?_⟩
  obtain ⟨before, last, hmade, done, rfl, holds⟩ := h.2 text hvalue
  exact ⟨before, done, hmade, holds⟩

theorem Context.leaves_fetch (url : String) (status : Nat) :
    Leaves (fun value made =>
        AllOf (fun call => ∃ outcome, call = .requested url outcome) made ∧
        ∀ body, value = .ok body → ∃ before response,
          made = before ++ [.requested url (.ok response)] ∧ response.status = status ∧
            response.body = body)
      (ctx.fetch (host.watched id) url status) := by
  let p : HttpProbe := ⟨url, status, ctx.poll.timeout⟩
  refine ((p.callsOnce host).leaves_timed p.describe ctx.poll Response.describe).bind_ofExcept
    (g := fun response => .ok response.body) ?_
  rintro value made ⟨hmade, hlast⟩
  refine ⟨hmade, fun body hbody => ?_⟩
  obtain ⟨response, hvalue, hresponse⟩ := Sequence.bind_eq_ok_iff.1 hbody
  obtain ⟨before, last, hmade, rfl, expected⟩ := hlast response hvalue
  exact ⟨before, response, hmade, expected, Except.ok.inj hresponse⟩

end

/-- The host on which every process ends with a status of one's choice. -/
def Host.withStatus (status : Completion → ExitStatus) (host : Host σ) : Host σ :=
  { host with
    spawn := fun i =>
      Except.map (fun done => { done with status := status done }) <$> host.spawn i }

theorem CommandProbe.probe_withStatus (status : Completion → ExitStatus) (host : Host σ)
    (p : CommandProbe) : p.probe (host.withStatus status) = p.probe host := by
  funext world
  simp only [probe, Command.runAllowingError_run, Host.withStatus, Timed.run_map]
  cases ((host.spawn (p.session.invocation p.arguments)).run .zero world).value with
  | error cause => rfl
  | ok done => rfl

/-! ### Actions -/

namespace Action

variable (host : Host σ) (ctx : Context)

theorem leaves_run (arguments : List String) (allowError : Bool) (exitCode : Option Int)
    (expect : List Expectation) :
    Leaves ((Action.run arguments allowError exitCode expect).Accounts ctx)
      ((Action.run arguments allowError exitCode expect).perform (host.watched id) ctx) := by
  cases h : arguments.mapM ctx.expand with
  | error failure =>
    refine leaves_ofExcept_bind_accounts fun expanded texts => ?_
    cases h.symm.trans texts
  | ok expanded =>
    rw [perform_run_eq _ h]
    refine (ctx.session.leaves_runAllowingError host expanded).bind_ofExcept ?_
    rintro value made ⟨outcome, rfl, rfl⟩
    refine ⟨by simpa [AllOf] using .run h outcome, fun success => ?_⟩
    obtain ⟨r, hr, judged⟩ := Sequence.bind_eq_ok_iff.1 success
    obtain ⟨done, rfl, rfl⟩ := Session.resultOf_eq_ok_iff.1 hr
    obtain ⟨accepted, es, operands, holds⟩ := Context.judge_eq_ok_iff.1 judged
    exact .run h operands accepted holds

theorem leaves_httpGet (url : String) (status : Nat) (timing : Timing) (expect : List Matcher) :
    Leaves ((Action.httpGet url status timing expect).Accounts ctx)
      ((Action.httpGet url status timing expect).perform (host.watched id) ctx) := by
  refine leaves_ofExcept_bind_accounts fun target text => ?_
  refine (Context.leaves_fetch host _ target status).bind_ofExcept ?_
  rintro value made ⟨hmade, hlast⟩
  refine ⟨fun call hcall => ?_, fun success => ?_⟩
  · obtain ⟨outcome, rfl⟩ := hmade call hcall
    exact .httpGet text outcome
  · obtain ⟨body, hvalue, matched⟩ := Sequence.bind_eq_ok_iff.1 success
    obtain ⟨before, response, rfl, expected, rfl⟩ := hlast body hvalue
    obtain ⟨matchers, operands, holds⟩ := Sequence.forM_bind_eq_ok_iff.1 matched
    exact .httpGet text operands expected fun m hm => Matcher.check_eq_ok_iff.1 (holds m hm)

theorem leaves_waitFor (arguments : List String) (expect : Expectation) (timing : Timing) :
    Leaves ((Action.waitFor arguments expect timing).Accounts ctx)
      ((Action.waitFor arguments expect timing).perform (host.watched id) ctx) := by
  refine leaves_ofExcept_bind_accounts fun expanded texts => ?_
  refine leaves_ofExcept_bind_accounts fun e operand => ?_
  refine (Context.leaves_await host _ expanded e).bind_ofExcept (g := fun _ => .ok ()) ?_
  rintro value made ⟨hmade, hlast⟩
  refine ⟨fun call hcall => ?_, fun success => ?_⟩
  · obtain ⟨outcome, rfl⟩ := hmade call hcall
    exact .waitFor texts outcome
  · obtain ⟨output, hvalue, -⟩ := Sequence.bind_eq_ok_iff.1 success
    obtain ⟨before, done, rfl, holds⟩ := hlast output hvalue
    exact .waitFor texts operand holds

/-- With what exit codes a command ends that is waited for makes no difference. -/
theorem perform_waitFor_withStatus (status : Completion → ExitStatus) (arguments : List String)
    (expect : Expectation) (timing : Timing) :
    (Action.waitFor arguments expect timing).perform (host.withStatus status) ctx =
      (Action.waitFor arguments expect timing).perform host ctx := by
  simp only [perform, Context.await, CommandProbe.await, CommandProbe.probe_withStatus]

/-- What an inspection has found is the first object that its command prints. -/
theorem finds_of_inspect {s : Session} {kind : ObjectKind} {name : String}
    {outcome : Except SystemError Completion} {o : InspectedObject}
    (h : s.resultOf (kind.inspectArguments name) outcome >>= Command.Result.requireSuccess >>=
      Session.firstObject kind name = .ok o) :
    ∃ done, outcome = .ok done ∧ Finds s kind name done o := by
  obtain ⟨r, hsuccess, hfirst⟩ := Sequence.bind_eq_ok_iff.1 h
  obtain ⟨printed, hr, hsuccess⟩ := Sequence.bind_eq_ok_iff.1 hsuccess
  obtain ⟨done, rfl, rfl⟩ := Session.resultOf_eq_ok_iff.1 hr
  unfold Command.Result.requireSuccess at hsuccess
  split at hsuccess
  · next succeeded =>
    cases hsuccess
    exact ⟨done, rfl, by simpa [Command.Result.succeeded] using succeeded, hfirst⟩
  · cases hsuccess

/-- An inspection whose object is checked is one command. -/
theorem leaves_inspect_bind (kind : ObjectKind) (name : String)
    (check : InspectedObject → Except Failure Unit) :
    Leaves (fun value made => ∃ outcome,
        made = [.spawned (ctx.session.invocation (kind.inspectArguments name)) outcome] ∧
        (value = .ok () → ∃ done o, outcome = .ok done ∧ Finds ctx.session kind name done o ∧
          check o = .ok ()))
      (ctx.inspect (host.watched id) kind name >>= fun o => Act.ofExcept (check o)) := by
  refine (ctx.session.leaves_inspect host kind name).bind_ofExcept ?_
  rintro value made ⟨outcome, rfl, rfl⟩
  refine ⟨outcome, rfl, fun success => ?_⟩
  obtain ⟨o, inspected, checked⟩ := Sequence.bind_eq_ok_iff.1 success
  obtain ⟨done, rfl, found⟩ := finds_of_inspect inspected
  exact ⟨done, o, rfl, found, checked⟩

theorem leaves_inspectLabels (target : String) (kind : ObjectKind)
    (labels : Dict (Option String)) :
    Leaves ((Action.inspectLabels target kind labels).Accounts ctx)
      ((Action.inspectLabels target kind labels).perform (host.watched id) ctx) := by
  refine leaves_ofExcept_bind_accounts fun name text => ?_
  refine leaves_ofExcept_bind_accounts fun expected values => ?_
  refine (leaves_inspect_bind host ctx kind name _).imp ?_
  rintro value made ⟨outcome, rfl, grounds⟩
  refine ⟨by simpa [AllOf] using .inspectLabels text outcome, fun success => ?_⟩
  obtain ⟨done, o, rfl, found, matched⟩ := grounds success
  exact .inspectLabels text values found matched

theorem leaves_inspectMounts (target : String) (mounts : List Mount) :
    Leaves ((Action.inspectMounts target mounts).Accounts ctx)
      ((Action.inspectMounts target mounts).perform (host.watched id) ctx) := by
  refine leaves_ofExcept_bind_accounts fun name text => ?_
  refine leaves_ofExcept_bind_accounts fun expected sources => ?_
  refine (leaves_inspect_bind host ctx .container name _).imp ?_
  rintro value made ⟨outcome, rfl, grounds⟩
  refine ⟨by simpa [AllOf] using .inspectMounts text outcome, fun success => ?_⟩
  obtain ⟨done, o, rfl, found, matched⟩ := grounds success
  exact .inspectMounts text sources found matched

/-- Every action makes calls of its own only, and its success is grounded in them. -/
theorem leaves_perform (a : Action) :
    Leaves (a.Accounts ctx) (a.perform (host.watched id) ctx) := by
  cases a with
  | run arguments allowError exitCode expect =>
    exact leaves_run host ctx arguments allowError exitCode expect
  | httpGet url status timing expect => exact leaves_httpGet host ctx url status timing expect
  | waitFor arguments expect timing => exact leaves_waitFor host ctx arguments expect timing
  | inspectLabels target kind labels => exact leaves_inspectLabels host ctx target kind labels
  | inspectMounts target mounts => exact leaves_inspectMounts host ctx target mounts

end Action
end ComposeHarness
