import ComposeHarness.Scenario.Reach
import ComposeHarness.ScenarioFile.Basic

/-!
# Performing actions

An action expands its texts for the project of its scenario, does its one thing, and checks what
came of it. The actions of a step are performed in order, up to the first that fails.
-/
namespace ComposeHarness

variable {σ : Type}

namespace Context

def expandAll (ctx : Context) (texts : List String) : Except Failure (List String) :=
  texts.mapM ctx.expand

/-- Checks expectations on a result, each expanded when its turn comes. -/
def checkAll (ctx : Context) (r : Command.Result) (expect : List Expectation) :
    Except Failure Unit :=
  expect.forM fun e => do r.check (← e.mapOperand ctx.expand)

/-- Checks a text, each matcher expanded when its turn comes. -/
def matchAll (ctx : Context) (subject text : String) (matchers : List Matcher) :
    Except Failure Unit :=
  matchers.forM fun m => do (← m.mapOperand ctx.expand).check subject text

/-- Expands the values of labels; the keys stay as they are written. -/
def expandLabels (ctx : Context) (labels : Dict (Option String)) :
    Except Failure (Dict (Option String)) :=
  labels.mapValuesM fun _ value =>
    match value with
    | some text => some <$> ctx.expand text
    | none => .ok none

/-- Expands the source of a mount; the rest stays as it is written. -/
def expandMount (ctx : Context) (m : Mount) : Except Failure Mount :=
  match m.source with
  | some source => do
    let source ← ctx.expand source
    .ok { m with source := some source }
  | none => .ok m

/-- What a command's result must be for its action to succeed. -/
def checkRun (ctx : Context) (r : Command.Result) (exitCode : Option Int)
    (expect : List Expectation) : Except Failure Unit := do
  match exitCode with
  | some code => r.checkExitCode code
  | none => .ok ()
  ctx.checkAll r expect

end Context

namespace Action

/-- Performs one action. -/
def perform (host : Host σ) (ctx : Context) : Action → Act σ Unit
  | .run arguments allowError exitCode expect => do
    let arguments ← Act.ofExcept (ctx.expandAll arguments)
    let r ←
      if allowError || exitCode.isSome then ctx.runAllowingError host arguments
      else ctx.run host arguments
    Act.ofExcept (ctx.checkRun r exitCode expect)
  | .httpGet url status timing expect => do
    let url ← Act.ofExcept (ctx.expand url)
    let body ← (ctx.withPoll (timing.apply ctx.poll)).fetch host url status
    Act.ofExcept (ctx.matchAll ("body of GET " ++ url) body expect)
  | .waitFor arguments expect timing => do
    let arguments ← Act.ofExcept (ctx.expandAll arguments)
    let expect ← Act.ofExcept (expect.mapOperand ctx.expand)
    let _ ← (ctx.withPoll (timing.apply ctx.poll)).await host arguments expect
    return ()
  | .inspectLabels target kind labels => do
    let target ← Act.ofExcept (ctx.expand target)
    let labels ← Act.ofExcept (ctx.expandLabels labels)
    let o ← ctx.inspect host kind target
    Act.ofExcept (o.expectLabels labels)
  | .inspectMounts target mounts => do
    let target ← Act.ofExcept (ctx.expand target)
    let mounts ← Act.ofExcept (mounts.mapM ctx.expandMount)
    let o ← ctx.inspect host .container target
    Act.ofExcept (o.expectMounts mounts)

/-- Performs actions in order, up to the first that fails. -/
def performAll (host : Host σ) (ctx : Context) (actions : List Action) : Act σ Unit :=
  actions.forM (perform host ctx)

end Action

/-- The step that a definition describes. -/
def StepDefinition.toStep (host : Host σ) (kind : StepKind) (d : StepDefinition) : Step σ where
  name := d.name
  kind := kind
  action ctx := Ending.ofExcept <$> (Action.performAll host ctx d.actions).run

end ComposeHarness
