import ComposeHarness.Proofs.Host.Leaves
import ComposeHarness.Proofs.ScenarioFile.Expansion

/-!
# How the result of a command is judged

A run action runs its command once and judges the result: first the exit code, then the expectations
in their order. The operand of an expectation is expanded when its turn comes; in an action that is
accepted this comes to the same as expanding all of them first.
-/
namespace ComposeHarness

variable {σ : Type} {ctx : Context} {allowError : Bool} {exitCode : Option Int}
  {expect expectations : List Expectation} {failure : Failure}

/-! ### Judging a result -/

namespace Command.Result

/-- The exit code is the one that is asked for; if none is, it is zero unless errors are allowed. -/
def ExitAccepted (r : Result) (allowError : Bool) : Option Int → Prop
  | some code => r.exitCode = code
  | none => allowError = true ∨ r.exitCode = 0

/-- How a result is refused for its exit code. -/
inductive ExitRefused (r : Result) (allowError : Bool) (exitCode : Option Int) : Failure → Prop
  /-- The command was to succeed. -/
  | failed (free : exitCode = none) (strict : allowError = false) (bad : r.exitCode ≠ 0) :
      ExitRefused r allowError exitCode (.exit r.command r.exitCode r.combined)
  | otherCode {code : Int} (asked : exitCode = some code) (bad : r.exitCode ≠ code) :
      ExitRefused r allowError exitCode
        (.expectation ("exit code " ++ toString code ++ " (got " ++ toString r.exitCode ++ ")")
          ("'" ++ r.command ++ "'") r.combined)

/-- How a result is refused: for its exit code, or else for the first expectation that does not
hold. -/
inductive Refused (r : Result) (allowError : Bool) (exitCode : Option Int)
    (expectations : List Expectation) (failure : Failure) : Prop
  | exit (refused : r.ExitRefused allowError exitCode failure)
  | unmet {before after : List Expectation} {e : Expectation}
      (accepted : r.ExitAccepted allowError exitCode)
      (split : expectations = before ++ e :: after) (first : ∀ b ∈ before, b.Holds r)
      (refuses : e.Refuses r failure)

end Command.Result

namespace Context

/-- What a run action makes of the result of its command. -/
def judge (ctx : Context) (allowError : Bool) (exitCode : Option Int) (expect : List Expectation)
    (r : Command.Result) : Except Failure Unit := do
  let r ← if allowError || exitCode.isSome then .ok r else r.requireSuccess
  ctx.checkRun r exitCode expect

/-- The judgement of the exit code alone. -/
def judgeExit (allowError : Bool) (exitCode : Option Int) (r : Command.Result) :
    Except Failure Unit :=
  match exitCode with
  | some code => r.checkExitCode code
  | none => if allowError then .ok () else r.requireSuccess.map fun _ => ()

theorem judge_eq (r : Command.Result) :
    ctx.judge allowError exitCode expect r =
      judgeExit allowError exitCode r >>= fun _ => ctx.checkAll r expect := by
  cases exitCode with
  | some code => simp [judge, judgeExit, checkRun]; rfl
  | none =>
    cases allowError with
    | true => rfl
    | false =>
      simp only [judge, judgeExit, checkRun, Command.Result.requireSuccess]
      by_cases h : r.succeeded <;> simp [h] <;> rfl

theorem judgeExit_eq_ok_iff {r : Command.Result} :
    judgeExit allowError exitCode r = .ok () ↔ r.ExitAccepted allowError exitCode := by
  cases exitCode with
  | some code =>
    by_cases h : r.exitCode = code <;>
      simp [judgeExit, Command.Result.checkExitCode, Command.Result.ExitAccepted, h]
  | none =>
    by_cases h : r.exitCode = 0 <;> cases allowError <;>
      simp [judgeExit, Command.Result.requireSuccess, Command.Result.succeeded,
        Command.Result.ExitAccepted, h, Except.map]

/-- With its operands expanded, a list of expectations is checked as a whole. -/
theorem checkAll_eq (h : expect.mapM (·.mapOperand ctx.expand) = .ok expectations)
    (r : Command.Result) : ctx.checkAll r expect = r.checkAll expectations :=
  Sequence.forM_bind_of_mapM h r.check

theorem checkAll_eq_ok_iff {r : Command.Result} :
    ctx.checkAll r expect = .ok () ↔
      ∃ es, expect.mapM (·.mapOperand ctx.expand) = .ok es ∧ ∀ e ∈ es, e.Holds r := by
  simp only [← Command.Result.check_eq_ok_iff]
  exact Sequence.forM_bind_eq_ok_iff

theorem judge_eq_ok_iff {r : Command.Result} :
    ctx.judge allowError exitCode expect r = .ok () ↔ r.ExitAccepted allowError exitCode ∧
      ∃ es, expect.mapM (·.mapOperand ctx.expand) = .ok es ∧ ∀ e ∈ es, e.Holds r := by
  rw [judge_eq, Sequence.seq_eq_ok_iff, judgeExit_eq_ok_iff, checkAll_eq_ok_iff]

theorem judgeExit_eq_error_iff {r : Command.Result} :
    judgeExit allowError exitCode r = .error failure ↔
      r.ExitRefused allowError exitCode failure := by
  constructor
  · intro h
    cases exitCode with
    | some code =>
      by_cases bad : r.exitCode = code
      · simp [judgeExit, Command.Result.checkExitCode, bad] at h
      · obtain rfl : _ = failure := by
          simpa only [judgeExit, Command.Result.checkExitCode, bad, if_false,
            Except.error.injEq] using h
        exact .otherCode rfl bad
    | none =>
      cases allowError with
      | true => simp [judgeExit] at h
      | false =>
        by_cases bad : r.exitCode = 0
        · simp [judgeExit, Command.Result.requireSuccess, Command.Result.succeeded, bad,
            Except.map] at h
        · obtain rfl : _ = failure := by
            simpa [judgeExit, Command.Result.requireSuccess, Command.Result.succeeded, bad,
              Except.map] using h
          exact .failed rfl rfl bad
  · intro h
    cases h with
    | failed free strict bad =>
      simp [judgeExit, Command.Result.requireSuccess, Command.Result.succeeded, free, strict, bad,
        Except.map]
    | otherCode asked bad => simp [judgeExit, Command.Result.checkExitCode, asked, bad]

/-- The failure is that of the exit code if there is one, else that of the first expectation that
does not hold. -/
theorem judge_eq_error_iff (h : expect.mapM (·.mapOperand ctx.expand) = .ok expectations)
    {r : Command.Result} :
    ctx.judge allowError exitCode expect r = .error failure ↔
      r.Refused allowError exitCode expectations failure := by
  rw [judge_eq, Sequence.bind_eq_error_iff, judgeExit_eq_error_iff, checkAll_eq h,
    Command.Result.checkAll_eq_error_iff]
  constructor
  · rintro (refused | ⟨⟨⟩, accepted, before, e, after, split, first, refuses⟩)
    · exact .exit refused
    · exact .unmet (judgeExit_eq_ok_iff.1 accepted) split first refuses
  · intro refused
    cases refused with
    | exit refused => exact .inl refused
    | unmet accepted split first refuses =>
      exact .inr ⟨(), judgeExit_eq_ok_iff.2 accepted, _, _, _, split, first, refuses⟩

end Context

/-! ### Performing a run action -/

/-- What comes of a computation is judged at no cost. -/
theorem Act.run_bind_ofExcept {α β : Type} (x : Act σ α) (f : α → Except Failure β)
    (now : Duration) (world : σ) :
    (x >>= fun a => Act.ofExcept (f a)).run.run now world =
      let span := x.run.run now world
      ⟨span.value >>= f, span.spent, span.world⟩ := by
  simp only [ExceptT.run_bind, Timed.run_bind]
  cases (x.run.run now world).value with
  | error failure => simp [bind, Except.bind]
  | ok a => simp [bind, Except.bind]

namespace Action

/-- A run action whose arguments expand is one invocation of its command and the judgement of what
comes of it. -/
theorem perform_run_eq (host : Host σ) {arguments expanded : List String}
    (h : arguments.mapM ctx.expand = .ok expanded) :
    (Action.run arguments allowError exitCode expect).perform host ctx =
      ctx.session.runAllowingError host expanded >>= fun r =>
        Act.ofExcept (ctx.judge allowError exitCode expect r) := by
  have hexpanded : (Act.ofExcept (ctx.expandAll arguments) : Act σ (List String)) =
      pure expanded := by
    rw [Context.expandAll, h]
    rfl
  simp only [perform, hexpanded, pure_bind, Context.judge]
  by_cases allowed : (allowError || exitCode.isSome) = true
  · simp only [allowed, if_true]
    rfl
  · simp only [allowed, Bool.false_eq_true, if_false, Context.run, Session.run, bind_assoc,
      Act.ofExcept_bind]

theorem perform_run_run (host : Host σ) {arguments expanded : List String}
    (h : arguments.mapM ctx.expand = .ok expanded) (now : Duration) (world : σ) :
    ((Action.run arguments allowError exitCode expect).perform host ctx).run.run now world =
      let called := (host.spawn (ctx.session.invocation expanded)).run now world
      ⟨ctx.session.resultOf expanded called.value >>= ctx.judge allowError exitCode expect,
        called.spent, called.world⟩ := by
  rw [perform_run_eq host h, Act.run_bind_ofExcept, Command.runAllowingError_run]
  rfl

/-- The texts of a run action that is accepted can be expanded. -/
theorem exists_expanded_run {arguments : List String}
    (valid : (Action.run arguments allowError exitCode expect).validate = .ok ()) (ctx : Context) :
    (∃ expanded, arguments.mapM ctx.expand = .ok expanded) ∧
      ∃ es, expect.mapM (·.mapOperand ctx.expand) = .ok es := by
  have hexpand : ∀ text ∈ (Action.run arguments allowError exitCode expect).templates,
      ∃ out, ctx.expand text = .ok out := fun text htext =>
    (checkPlaceholders_eq_ok_iff ctx.naming ctx.project.text).1 (check_of_validate valid text htext)
  simp only [templates, List.forall_mem_append, List.forall_mem_map] at hexpand
  refine ⟨Sequence.exists_mapM_eq_ok_iff.2 hexpand.1,
    Sequence.exists_mapM_eq_ok_iff.2 fun e he => ?_⟩
  obtain ⟨out, hout⟩ := hexpand.2 e he
  exact ⟨{ e with matcher := e.matcher.withOperand out },
    by simp [Expectation.mapOperand, Matcher.mapOperand, hout, Except.map]⟩

/-- An accepted run action makes one invocation and is judged by its result, whatever that is. It
succeeds exactly if the exit code is accepted and every expectation, with its operand expanded,
holds of the text it speaks of. It fails for the exit code, or else for the first expectation that
does not hold; so expanding each operand in its turn comes to checking the expanded list. -/
theorem run_is_judged_by_its_result (host : Host σ) (ctx : Context) {arguments : List String}
    {allowError : Bool} {exitCode : Option Int} {expect : List Expectation}
    (valid : (Action.run arguments allowError exitCode expect).validate = .ok ()) :
    ∃ expanded expectations, arguments.mapM ctx.expand = .ok expanded ∧
      expect.mapM (·.mapOperand ctx.expand) = .ok expectations ∧
      (∀ r : Command.Result,
        (ctx.judge allowError exitCode expect r = .ok () ↔
          r.ExitAccepted allowError exitCode ∧ ∀ e ∈ expectations, e.Holds r) ∧
        (∀ failure, ctx.judge allowError exitCode expect r = .error failure ↔
          r.Refused allowError exitCode expectations failure) ∧
        ctx.checkAll r expect = r.checkAll expectations) ∧
      ∀ now world,
        let a := Action.run arguments allowError exitCode expect
        let called := (host.spawn (ctx.session.invocation expanded)).run now world
        let span := (a.perform host ctx).run.run now world
        (a.perform (host.watched id) ctx).run.run now (world, []) =
            ⟨span.value, span.spent,
              (span.world, [.spawned (ctx.session.invocation expanded) called.value])⟩ ∧
          (∀ done, called.value = .ok done →
            span.value = ctx.judge allowError exitCode expect (ctx.session.result expanded done)) ∧
          ∀ cause, called.value = .error cause →
            span.value = .error (.spawn (ctx.session.commandLine expanded) cause) := by
  obtain ⟨⟨expanded, hexpanded⟩, es, hes⟩ := exists_expanded_run valid ctx
  refine ⟨expanded, es, hexpanded, hes, fun r => ⟨?_, fun failure => Context.judge_eq_error_iff hes,
    Context.checkAll_eq hes r⟩, fun now world => ?_⟩
  · rw [Context.judge_eq_ok_iff, hes]
    simp
  · simp only [perform_run_run _ hexpanded, Host.run_watched_spawn]
    refine ⟨rfl, fun done hdone => ?_, fun cause hcause => ?_⟩
    · rw [hdone]
      rfl
    · rw [hcause]
      rfl

end Action

/-- A host on which every command ends with the code 3 and writes something to both pipes. -/
def complainingHost : Host Unit :=
  { silentHost with
    spawn := fun _ => pure <| .ok
      ⟨.code 3, [⟨.stderr, "demo_web_1 is up\n".toUTF8.toList⟩, ⟨.stdout, "web\n".toUTF8.toList⟩]⟩ }

/-- Its exit code and its first expectation are as they should be on this host, the second
expectation is not. -/
def stopWeb : Action :=
  .run ["stop", "{container:web}"] false (some 3)
    [⟨.stderr, .contains "{container:web}"⟩, ⟨.stdout, .equals "{project}"⟩]

theorem stopWeb_is_judged_by_its_result :
    stopWeb.validate = .ok () ∧
      let ctx : Context := ⟨"stop", .ofBinary ⟨"docker"⟩, ⟨"demo"⟩, .standard, .standard⟩
      ((stopWeb.perform complainingHost ctx).run.run .zero ()).value =
        .error (.expectation "equals \"demo\"" "stdout of 'docker stop demo_web_1'" "web\n") := by
  have valid : stopWeb.validate = .ok () := by decide +kernel
  refine ⟨valid, ?_⟩
  intro ctx
  obtain ⟨expanded, es, hexpanded, hes, judged, ran⟩ :=
    Action.run_is_judged_by_its_result complainingHost ctx valid
  obtain rfl : ["stop", "demo_web_1"] = expanded :=
    Except.ok.inj ((by decide +kernel : _ = Except.ok _).symm.trans hexpanded)
  obtain rfl : [⟨.stderr, .contains "demo_web_1"⟩, ⟨.stdout, .equals "demo"⟩] = es :=
    Except.ok.inj ((by decide +kernel : _ = Except.ok _).symm.trans hes)
  obtain ⟨-, ended, -⟩ := ran .zero ()
  refine (ended _ rfl).trans (((judged _).2.1 _).2 ?_)
  refine .unmet rfl List.singleton_append.symm ?_ ?_
  · rw [List.forall_mem_singleton]
    exact Command.Result.check_eq_ok_iff.1 (by decide +kernel)
  · exact Command.Result.check_eq_error_iff.1 (by decide +kernel)

end ComposeHarness
