import ComposeHarness.Proofs.ScenarioFile.Templates
import ComposeHarness.Proofs.Watched
import ComposeHarness.ScenarioFile.Execution

/-!
# Expansions while actions are performed

Actions are performed once more with their expansions in plain sight: one computation expands a
text, another does everything else. If the first one notes what it expands, a watched world shows
every expansion of a run and its outcome.
-/
namespace ComposeHarness

variable {σ τ : Type}

namespace Action

/-- Checks an exit code if there is one to be expected. -/
def checkExit (r : Command.Result) : Option Int → Except Failure Unit
  | some code => r.checkExitCode code
  | none => .ok ()

section
variable (expand : String → Act τ String) (reach : {α : Type} → Act σ α → Act τ α)

/-- Expands a text that an action may leave out. -/
def expandOption : Option String → Act τ (Option String)
  | some text => some <$> expand text
  | none => pure none

/-- Performs one action. Its texts go through `expand`, all that it does apart from that through
`reach`. -/
def performWith (host : Host σ) (ctx : Context) : Action → Act τ Unit
  | .run arguments allowError exitCode expect => do
    let arguments ← arguments.mapM expand
    let r ← reach <|
      if allowError || exitCode.isSome then ctx.runAllowingError host arguments
      else ctx.run host arguments
    reach (Act.ofExcept (checkExit r exitCode))
    expect.forM fun e => do
      let operand ← expand e.matcher.operand
      reach (Act.ofExcept (r.check { e with matcher := e.matcher.withOperand operand }))
  | .httpGet url status timing expect => do
    let url ← expand url
    let body ← reach ((ctx.withPoll (timing.apply ctx.poll)).fetch host url status)
    expect.forM fun m => do
      let operand ← expand m.operand
      reach (Act.ofExcept ((m.withOperand operand).check ("body of GET " ++ url) body))
  | .waitFor arguments expect timing => do
    let arguments ← arguments.mapM expand
    let operand ← expand expect.matcher.operand
    let expect : Expectation := { expect with matcher := expect.matcher.withOperand operand }
    let _ ← reach ((ctx.withPoll (timing.apply ctx.poll)).await host arguments expect)
    return ()
  | .inspectLabels target kind labels => do
    let target ← expand target
    let entries ← labels.entries.mapM fun e => (e.1, ·) <$> expandOption expand e.2
    let o ← reach (ctx.inspect host kind target)
    reach (Act.ofExcept (o.expectLabels (.ofList entries)))
  | .inspectMounts target mounts => do
    let target ← expand target
    let mounts ← mounts.mapM fun m =>
      (fun source => { m with source }) <$> expandOption expand m.source
    let o ← reach (ctx.inspect host .container target)
    reach (Act.ofExcept (o.expectMounts mounts))

def performAllWith (host : Host σ) (ctx : Context) (actions : List Action) : Act τ Unit :=
  actions.forM (performWith expand reach host ctx)

end

theorem ofExcept_checkRun (ctx : Context) (r : Command.Result) (exitCode : Option Int)
    (expect : List Expectation) :
    (Act.ofExcept (ctx.checkRun r exitCode expect) : Act σ Unit) =
      Act.ofExcept (checkExit r exitCode) >>= fun _ => expect.forM fun e =>
        Act.ofExcept (ctx.expand e.matcher.operand) >>= fun operand =>
          Act.ofExcept (r.check { e with matcher := e.matcher.withOperand operand }) := by
  cases exitCode <;>
    simp only [Context.checkRun, checkExit, Context.checkAll, Act.ofExcept_bind, Act.ofExcept_forM,
      Expectation.mapOperand, Matcher.mapOperand, Act.ofExcept_map, bind_map_left]

theorem ofExcept_expandLabels (ctx : Context) (labels : Dict (Option String)) :
    (Act.ofExcept (ctx.expandLabels labels) : Act σ (Dict (Option String))) =
      Dict.ofList <$> labels.entries.mapM fun e =>
        (e.1, ·) <$> expandOption (fun text => Act.ofExcept (ctx.expand text)) e.2 := by
  rw [Context.expandLabels, Dict.mapValuesM, Act.ofExcept_map, Act.ofExcept_mapM]
  congr 2
  funext e
  obtain ⟨key, value⟩ := e
  rw [Act.ofExcept_map]
  cases value with
  | none => rfl
  | some text => exact congrArg _ (Act.ofExcept_map some _)

theorem ofExcept_expandMount (ctx : Context) (m : Mount) :
    (Act.ofExcept (ctx.expandMount m) : Act σ Mount) =
      (fun source => { m with source }) <$>
        expandOption (fun text => Act.ofExcept (ctx.expand text)) m.source := by
  obtain ⟨type, source, target, readOnly⟩ := m
  cases source with
  | none =>
    simp only [Context.expandMount, expandOption, map_pure]
    rfl
  | some source =>
    simp only [Context.expandMount, expandOption, Act.ofExcept_bind, Functor.map_map]
    rw [map_eq_pure_bind]
    rfl

/-- With the expansions of the context, and nothing changed in the rest, actions are performed. -/
theorem performWith_eq_perform (host : Host σ) (ctx : Context) (a : Action) :
    performWith (fun text => Act.ofExcept (ctx.expand text)) (fun x => x) host ctx a =
      perform host ctx a := by
  cases a with
  | run arguments allowError exitCode expect =>
    simp only [performWith, perform, Context.expandAll, Act.ofExcept_mapM, ofExcept_checkRun]
    refine bind_congr fun expanded => ?_
    split <;> rfl
  | httpGet url status timing expect =>
    simp only [performWith, perform, Context.matchAll, Act.ofExcept_forM, Act.ofExcept_bind,
      Matcher.mapOperand, Act.ofExcept_map, bind_map_left]
  | waitFor arguments expect timing =>
    simp only [performWith, perform, Context.expandAll, Act.ofExcept_mapM, Expectation.mapOperand,
      Matcher.mapOperand, Act.ofExcept_map, bind_map_left]
  | inspectLabels target kind labels =>
    simp only [performWith, perform, ofExcept_expandLabels, bind_map_left]
  | inspectMounts target mounts =>
    simp only [performWith, perform, Act.ofExcept_mapM, ofExcept_expandMount]

theorem performAllWith_eq_performAll (host : Host σ) (ctx : Context) (actions : List Action) :
    performAllWith (fun text => Act.ofExcept (ctx.expand text)) (fun x => x) host ctx actions =
      performAll host ctx actions := by
  rw [performAllWith, performAll]
  congr 1
  funext a
  exact performWith_eq_perform host ctx a

end Action

/-- An expansion that was carried out, and what came of it. -/
structure Expanded where
  text : String
  outcome : Except Failure String

namespace Expanded

open Watched

/-- The expansion of a text for the project of a context. -/
def of (ctx : Context) (text : String) : Expanded := ⟨text, ctx.expand text⟩

/-- Expands a text and notes it. -/
def noted (ctx : Context) (text : String) : Act (Watched Expanded σ) String := do
  ExceptT.lift (note (of ctx text))
  Act.ofExcept (ctx.expand text)

theorem notes_noted (ctx : Context) (text : String) :
    Notes (noted ctx text : Act (Watched Expanded σ) String) (Act.ofExcept (ctx.expand text))
      [of ctx text] := by
  intro now world past
  refine ⟨_, by simp [noted], List.prefix_rfl, by simp⟩

theorem notes_noted_bind (ctx : Context) (text : String) {α : Type}
    {f : String → Act (Watched Expanded σ) α} {g : String → Act σ α} {log : List Expanded}
    (h : ∀ out, Notes (f out) (g out) log) :
    Notes (noted ctx text >>= f) (Act.ofExcept (ctx.expand text) >>= g) (of ctx text :: log) :=
  notes_bind (notes_noted ctx text) h

theorem notes_mapM_noted (ctx : Context) (texts : List String) :
    Notes (texts.mapM (noted ctx) : Act (Watched Expanded σ) (List String))
      (texts.mapM fun text => Act.ofExcept (ctx.expand text)) (texts.map (of ctx)) := by
  rw [List.map_eq_flatMap]
  exact notes_mapM texts (notes_noted ctx)

theorem notes_expandOption (ctx : Context) (text : Option String) :
    Notes (Action.expandOption (noted ctx) text : Act (Watched Expanded σ) (Option String))
      (Action.expandOption (fun text => Act.ofExcept (ctx.expand text)) text)
      (text.toList.map (of ctx)) := by
  cases text with
  | none => exact notes_pure none
  | some text => exact notes_map some (notes_noted ctx text)

/-- An action expands its templates one after the other, and nothing else. -/
theorem notes_performWith (host : Host σ) (ctx : Context) (a : Action) :
    Notes (a.performWith (noted ctx) liftAct host ctx) (a.perform host ctx)
      (a.templates.map (of ctx)) := by
  rw [← Action.performWith_eq_perform]
  cases a with
  | run arguments allowError exitCode expect =>
    simp only [Action.templates, List.map_append, List.map_map]
    refine notes_bind (notes_mapM_noted ctx arguments) fun expanded => ?_
    refine notes_liftAct_bind _ fun r => notes_liftAct_bind _ fun _ => ?_
    exact notes_forM expect fun e => notes_noted_bind ctx _ fun operand => notes_liftAct _
  | httpGet url status timing expect =>
    simp only [Action.templates, List.map_cons, List.map_map]
    refine notes_noted_bind ctx url fun url => notes_liftAct_bind _ fun body => ?_
    exact notes_forM expect fun m => notes_noted_bind ctx _ fun operand => notes_liftAct _
  | waitFor arguments expect timing =>
    simp only [Action.templates, List.map_append, List.map_cons, List.map_nil]
    refine notes_bind (notes_mapM_noted ctx arguments) fun expanded => ?_
    refine notes_noted_bind ctx _ fun operand => ?_
    exact notes_liftAct_bind _ fun _ => notes_pure ()
  | inspectLabels target kind labels =>
    simp only [Action.templates, List.map_cons, List.filterMap_eq_flatMap_toList,
      List.map_flatMap]
    refine notes_noted_bind ctx target fun target => ?_
    rw [← List.append_nil (List.flatMap _ _)]
    refine notes_bind (notes_mapM labels.entries fun e => ?_) fun entries => ?_
    · exact notes_map _ (notes_expandOption ctx e.2)
    · exact notes_liftAct_bind _ fun o => notes_liftAct _
  | inspectMounts target mounts =>
    simp only [Action.templates, List.map_cons, List.filterMap_eq_flatMap_toList,
      List.map_flatMap]
    refine notes_noted_bind ctx target fun target => ?_
    rw [← List.append_nil (List.flatMap _ _)]
    refine notes_bind (notes_mapM mounts fun m => ?_) fun mounts => ?_
    · exact notes_map _ (notes_expandOption ctx m.source)
    · exact notes_liftAct_bind _ fun o => notes_liftAct _

/-- Actions expand their templates in order, up to the first that fails. -/
theorem notes_performAllWith (host : Host σ) (ctx : Context) (actions : List Action) :
    Notes (Action.performAllWith (noted ctx) liftAct host ctx actions)
      (Action.performAll host ctx actions)
      ((actions.flatMap Action.templates).map (of ctx)) := by
  induction actions with
  | nil => exact notes_pure ()
  | cons a actions ih =>
    rw [List.flatMap_cons, List.map_append]
    exact notes_bind (notes_performWith host ctx a) fun _ => ih

end Expanded

/-- The expansions in a run of actions. Watching them does not change the run. They are a first part
of all templates, in their order, and each had been checked and gave a text. -/
structure ExpandsChecked (host : Host σ) (ctx : Context) (actions : List Action) (now : Duration)
    (world : σ) (log : List Expanded) : Prop where
  watched :
    let span := (Action.performAll host ctx actions).run.run now world
    (Action.performAllWith (Expanded.noted ctx) Watched.liftAct host ctx actions).run.run now
      (world, []) = ⟨span.value, span.spent, (span.world, log)⟩
  inOrder : log.map Expanded.text <+: actions.flatMap Action.templates
  outcome : ∀ e ∈ log, e.outcome = ctx.expand e.text
  checked : ∀ e ∈ log, checkPlaceholders e.text = .ok ()
  succeeded : ∀ e ∈ log, ∃ out, e.outcome = .ok out

theorem exists_expandsChecked (host : Host σ) (ctx : Context) {actions : List Action}
    (h : ∀ a ∈ actions, ∀ text ∈ a.templates, checkPlaceholders text = .ok ()) (now : Duration)
    (world : σ) : ∃ log, ExpandsChecked host ctx actions now world log := by
  obtain ⟨log, hrun, hfront, -⟩ := Expanded.notes_performAllWith host ctx actions now world []
  have hlog : ∀ e ∈ log, e.outcome = ctx.expand e.text ∧ checkPlaceholders e.text = .ok () := by
    intro e he
    obtain ⟨text, htext, rfl⟩ := List.mem_map.1 (hfront.subset he)
    obtain ⟨a, ha, htemplate⟩ := List.mem_flatMap.1 htext
    exact ⟨rfl, h a ha text htemplate⟩
  refine ⟨log, hrun, ?_, fun e he => (hlog e he).1, fun e he => (hlog e he).2, fun e he => ?_⟩
  · simpa [Expanded.of, Function.comp_def] using hfront.map Expanded.text
  · obtain ⟨out, hout⟩ := (checkPlaceholders_eq_ok_iff ctx.naming ctx.project.text).1 (hlog e he).2
    exact ⟨out, (hlog e he).1.trans hout⟩

/-- No expansion fails while the actions of an accepted file are performed, whatever the host does
and whatever the project and the separator are. -/
theorem ScenarioFile.performs_without_failed_expansion {f : ScenarioFile}
    (h : f.validate = .ok ()) {d : StepDefinition} (hd : d ∈ f.definitions) (host : Host σ)
    (ctx : Context) (now : Duration) (world : σ) :
    (∀ a ∈ d.actions, ∀ text ∈ a.templates, checkPlaceholders text = .ok ()) ∧
      (∀ (scheme : NamingScheme) (project text : String),
        checkPlaceholders text = .ok () ↔ ∃ out, scheme.expand text project = .ok out) ∧
      Action.performAllWith (fun text => Act.ofExcept (ctx.expand text)) (fun x => x) host ctx
        d.actions = Action.performAll host ctx d.actions ∧
      ∃ log, ExpandsChecked host ctx d.actions now world log := by
  have hchecked : ∀ a ∈ d.actions, ∀ text ∈ a.templates, checkPlaceholders text = .ok () :=
    fun a ha => Action.check_of_validate (validate_of_mem h hd ha)
  exact ⟨hchecked, fun scheme project _ => checkPlaceholders_eq_ok_iff scheme project,
    Action.performAllWith_eq_performAll host ctx d.actions,
    exists_expandsChecked host ctx hchecked now world⟩

/-- A host on which every command and request succeeds and says nothing. -/
def silentHost : Host Unit where
  spawn _ := pure (.ok ⟨.code 0, []⟩)
  request _ := pure (.ok ⟨200, ""⟩)
  readText _ _ := .ok ""
  pathExists _ _ := true
  isFile _ _ := true
  search name _ := .ok ⟨name⟩
  canonical path _ := .ok path
  makeStaging _ := (.ok ⟨"/tmp/staging"⟩, ())
  link _ _ _ := (.ok (), ())
  removeTree _ _ := (.ok (), ())
  lookupVariable _ _ := none
  accountHome _ := none
  seed _ := (0, ())

/-- A cleanup that looks at the labels of a network and the mounts of a container. -/
def lookAround : StepDefinition where
  name := "look around"
  bestEffort := false
  actions := [
    .inspectLabels "{network:default}" .network
      (.ofList [("project", some "{project}"), ("kept", none)]),
    .inspectMounts "{container:web}" [⟨"volume", some "{volume:data}", "/data", none⟩]]

def composeUp : ScenarioFile where
  name := "compose up"
  steps := [⟨"up", false, [
    .run ["compose", "-p", "{project}", "up"] false none [⟨.combined, .contains "{container:web}"⟩],
    .waitFor ["logs", "{container:web:2}"] ⟨.stdout, .pattern "ready"⟩ ⟨none, none⟩,
    .httpGet "http://localhost" 200 ⟨none, none⟩ [.contains "{image:nginx}"]]⟩]
  cleanup := [lookAround]

theorem lookAround_performs_without_failed_expansion :
    composeUp.validate = .ok () ∧ lookAround ∈ composeUp.definitions ∧
      ∃ log, ExpandsChecked silentHost
        ⟨"compose up", .ofBinary ⟨"docker"⟩, ⟨"demo"⟩, ⟨'-'⟩, .standard⟩ lookAround.actions .zero
        () log := by
  have hvalid : composeUp.validate = .ok () := by decide +kernel
  have hmem : lookAround ∈ composeUp.definitions := by
    simp [ScenarioFile.definitions, composeUp]
  exact ⟨hvalid, hmem,
    (ScenarioFile.performs_without_failed_expansion hvalid hmem silentHost _ .zero ()).2.2.2⟩

end ComposeHarness
