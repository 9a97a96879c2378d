import Mathlib.Data.List.Perm.Basic
import ComposeHarness.Proofs.ScenarioFile.Literals

/-!
# The first offence of a file

A file is accepted if many small things hold of it, each of which concerns its name, its project, or
one action of one definition. They are looked at in a fixed order, and the first that does not hold
is the offence that is told. None of them depends on another, so a definition that is accepted in
one place of one file is accepted everywhere.
-/
namespace ComposeHarness

/-! ### Things that hold in order -/

/-- The failure of the first of some things that does not hold. -/
def FirstOffence {α : Type} (Holds : α → Prop) (Offends : α → Failure → Prop) (xs : List α)
    (failure : Failure) : Prop :=
  ∃ before x after, xs = before ++ x :: after ∧ (∀ b ∈ before, Holds b) ∧ Offends x failure

section
variable {α : Type} {check : α → Except Failure Unit} {Holds : α → Prop}
  {Offends : α → Failure → Prop} {xs : List α}

theorem forM_eq_ok_iff_holds (holds : ∀ x, check x = .ok () ↔ Holds x) :
    xs.forM check = .ok () ↔ ∀ x ∈ xs, Holds x := by
  simp only [Sequence.forM_eq_ok_iff, holds]

theorem forM_eq_error_iff_firstOffence (holds : ∀ x, check x = .ok () ↔ Holds x)
    (offends : ∀ x failure, check x = .error failure ↔ Offends x failure) {failure : Failure} :
    xs.forM check = .error failure ↔ FirstOffence Holds Offends xs failure := by
  simp only [Sequence.forM_eq_error_iff, holds, offends, FirstOffence]

end

/-! ### What is checked of an action -/

/-- One thing that is checked of an action. -/
inductive Check where
  /-- A command has something to be run with. -/
  | command (kind : String) (arguments : List String)
  /-- The placeholders of a text are well formed. -/
  | template (text : String)
  /-- A pattern compiles as it is written. -/
  | pattern (text : String)

namespace Check

def Holds : Check → Prop
  | .command _ arguments => arguments ≠ []
  | .template text => ¬HasMalformed text
  | .pattern text => ∃ re, Regex.compile text = .ok re

/-- What is told of a check that fails. Of a text, it is its first malformed placeholder. -/
inductive Offends : Check → Failure → Prop where
  | command (kind : String) :
      Offends (.command kind []) (.config (kind ++ " action needs at least one argument"))
  | template {text : String} {before after : List NamingScheme.Piece} {key : List Char}
      {failure : Failure} (split : NamingScheme.divide text.toList = before ++ .group key :: after)
      (first : ∀ k f, .group k ∈ before → ¬NamingScheme.Malformed k f)
      (malformed : NamingScheme.Malformed key failure) : Offends (.template text) failure
  | pattern {text : String} {cause : RegexError} (h : Regex.compile text = .error cause) :
      Offends (.pattern text) (.config (Matcher.invalidPattern text cause))

/-- Carries out a check. -/
def run : Check → Except Failure Unit
  | .command kind arguments =>
    if arguments.isEmpty then .error (.config (kind ++ " action needs at least one argument"))
    else .ok ()
  | .template text => checkPlaceholders text
  | .pattern text => (Matcher.pattern text).checkPattern

theorem run_eq_ok_iff (c : Check) : c.run = .ok () ↔ c.Holds := by
  cases c with
  | command kind arguments => cases arguments <;> simp [run, Holds]
  | template text => exact checkPlaceholders_iff_not_hasMalformed
  | pattern text =>
    simp only [run, Matcher.checkPattern, Holds]
    cases Regex.compile text <;> simp

theorem run_eq_error_iff (c : Check) (failure : Failure) :
    c.run = .error failure ↔ c.Offends failure := by
  cases c with
  | command kind arguments =>
    constructor
    · intro h
      cases arguments with
      | nil =>
        cases h
        exact .command kind
      | cons => cases h
    · rintro ⟨⟩
      rfl
  | template text =>
    have hexpand : checkPlaceholders text = .error failure ↔
        NamingScheme.standard.expand text trialProject = .error failure :=
      Sequence.map_eq_error_iff
    rw [run, hexpand, NamingScheme.expand_eq_error_iff]
    constructor
    · rintro ⟨before, key, after, split, first, malformed⟩
      exact .template split first malformed
    · intro h
      cases h with
      | template split first malformed => exact ⟨_, _, _, split, first, malformed⟩
  | pattern text =>
    simp only [run, Matcher.checkPattern]
    cases hcompile : Regex.compile text with
    | ok re =>
      refine ⟨nofun, fun h => ?_⟩
      cases h with
      | pattern hcause => cases hcompile.symm.trans hcause
    | error cause =>
      constructor
      · rintro ⟨⟩
        exact .pattern hcompile
      · intro h
        cases h with
        | pattern hcause =>
          cases hcompile.symm.trans hcause
          rfl

end Check

/-- What is checked of a matcher: its operand, and that it compiles if it is a pattern. -/
def Matcher.checks (m : Matcher) : List Check :=
  match m with
  | .pattern text => [.template text, .pattern text]
  | _ => [.template m.operand]

theorem Matcher.validate_eq_forM (m : Matcher) : m.validate = m.checks.forM Check.run := by
  cases m with
  | pattern text =>
    change _ = checkPlaceholders text >>= fun _ => (pattern text).checkPattern >>= fun _ => pure ()
    rw [bind_pure_unit, validate]
    rfl
  | contains | notContains | equals => rfl

namespace Action

/-- Everything that is checked of an action, in order. -/
def checks : Action → List Check
  | .run arguments _ _ expect =>
    .command "run" arguments :: arguments.map .template ++ expect.flatMap (·.matcher.checks)
  | .httpGet url _ _ expect => .template url :: expect.flatMap Matcher.checks
  | .waitFor arguments expect _ =>
    .command "wait_for" arguments :: arguments.map .template ++ expect.matcher.checks
  | .inspectLabels target _ labels =>
    .template target :: (labels.entries.filterMap (·.2)).map .template
  | .inspectMounts target mounts => .template target :: (mounts.filterMap Mount.source).map .template

theorem forM_template (texts : List String) :
    (texts.map Check.template).forM Check.run = texts.forM checkPlaceholders :=
  List.forM_map

theorem checkArguments_eq_forM (kind : String) (arguments : List String) :
    checkArguments kind arguments =
      (Check.command kind arguments :: arguments.map .template).forM Check.run := by
  change _ = (Check.command kind arguments).run >>= fun _ =>
    (arguments.map Check.template).forM Check.run
  rw [forM_template]
  cases arguments <;> rfl

theorem validate_eq_forM (a : Action) : a.validate = a.checks.forM Check.run := by
  have happend : ∀ xs ys : List Check,
      (xs ++ ys).forM Check.run = xs.forM Check.run >>= fun _ => ys.forM Check.run :=
    fun _ _ => List.forM_append
  cases a with
  | run arguments allowError exitCode expect =>
    rw [checks, happend, ← checkArguments_eq_forM, Sequence.forM_flatMap]
    simp only [← Matcher.validate_eq_forM]
    rfl
  | httpGet url status timing expect =>
    change _ = checkPlaceholders url >>= fun _ => (expect.flatMap Matcher.checks).forM Check.run
    rw [Sequence.forM_flatMap]
    simp only [← Matcher.validate_eq_forM]
    rfl
  | waitFor arguments expect timing =>
    rw [checks, happend, ← checkArguments_eq_forM, ← Matcher.validate_eq_forM]
    rfl
  | inspectLabels target kind labels =>
    exact congrArg _ (funext fun _ => (forM_template _).symm)
  | inspectMounts target mounts =>
    exact congrArg _ (funext fun _ => (forM_template _).symm)

/-- Everything that is checked of the action holds. -/
def Valid (a : Action) : Prop := ∀ c ∈ a.checks, c.Holds

theorem validate_eq_ok_iff_valid (a : Action) : a.validate = .ok () ↔ a.Valid := by
  rw [validate_eq_forM, forM_eq_ok_iff_holds Check.run_eq_ok_iff]
  rfl

theorem validate_eq_error_iff (a : Action) (failure : Failure) :
    a.validate = .error failure ↔ FirstOffence Check.Holds Check.Offends a.checks failure := by
  rw [validate_eq_forM,
    forM_eq_error_iff_firstOffence Check.run_eq_ok_iff Check.run_eq_error_iff]

end Action

/-! ### Definitions -/

namespace StepDefinition

/-- What holds of a definition that is accepted, whatever stands beside it. -/
structure Valid (d : StepDefinition) : Prop where
  nonempty : d.actions ≠ []
  actions : ∀ a ∈ d.actions, a.Valid

/-- What is told of a definition, with its name: that it has no actions, or the first offence of the
first action that has any. -/
inductive Offends (d : StepDefinition) : Failure → Prop where
  | noActions (h : d.actions = []) : Offends d (.config ("step '" ++ d.name ++ "' has no actions"))
  | action {failure : Failure}
      (h : FirstOffence Action.Valid
        (fun a => FirstOffence Check.Holds Check.Offends a.checks) d.actions failure) :
      Offends d (.config ("step '" ++ d.name ++ "': " ++ failure.message))

theorem validate_eq_ok_iff_valid (d : StepDefinition) : d.validate = .ok () ↔ d.Valid := by
  have hactions : (d.actions.forM fun a => a.validate.mapError d.located) = .ok () ↔
      ∀ a ∈ d.actions, a.Valid :=
    forM_eq_ok_iff_holds fun a => Sequence.mapError_eq_ok_iff.trans a.validate_eq_ok_iff_valid
  unfold validate
  split
  · next hempty => exact ⟨nofun, fun h => absurd (List.isEmpty_iff.1 hempty) h.nonempty⟩
  · next hempty =>
    rw [hactions]
    exact ⟨fun h => ⟨by simpa using hempty, h⟩, Valid.actions⟩

theorem validate_eq_error_iff (d : StepDefinition) (failure : Failure) :
    d.validate = .error failure ↔ d.Offends failure := by
  have hactions : (d.actions.forM fun a => a.validate.mapError d.located) = .error failure ↔
      FirstOffence Action.Valid (fun a failure => ∃ cause,
        FirstOffence Check.Holds Check.Offends a.checks cause ∧ d.located cause = failure)
        d.actions failure :=
    forM_eq_error_iff_firstOffence
      (fun a => Sequence.mapError_eq_ok_iff.trans a.validate_eq_ok_iff_valid)
      (fun a _ => by simp only [Sequence.mapError_eq_error_iff, a.validate_eq_error_iff])
  unfold validate
  split
  · next hempty =>
    have hnil := List.isEmpty_iff.1 hempty
    constructor
    · rintro ⟨⟩
      exact .noActions hnil
    · intro h
      cases h with
      | noActions => rfl
      | action h =>
        obtain ⟨before, a, after, split, -⟩ := h
        simp [hnil] at split
  · next hempty =>
    rw [hactions]
    constructor
    · rintro ⟨before, a, after, split, first, cause, offends, rfl⟩
      exact .action ⟨before, a, after, split, first, offends⟩
    · intro h
      cases h with
      | noActions hnil => exact absurd (List.isEmpty_iff.2 hnil) hempty
      | action h =>
        obtain ⟨before, a, after, split, first, offends⟩ := h
        exact ⟨before, a, after, split, first, _, offends, rfl⟩

end StepDefinition

/-! ### Files -/

namespace ScenarioFile

/-- What holds of a file that is accepted. -/
structure Valid (f : ScenarioFile) : Prop where
  name : ∃ c ∈ f.name.toList, ¬Text.isBlank c
  project : ∀ id ∈ f.project, ∃ p, ProjectId.ofString? id = .ok p
  steps : ∀ d ∈ f.steps, d.Valid
  cleanup : ∀ d ∈ f.cleanup, d.Valid

/-- What is told of a file that is not accepted: of the name, the project and the definitions, the
steps before the cleanups, it is the first that offends. -/
inductive Offends (f : ScenarioFile) : Failure → Prop where
  | name (blank : ∀ c ∈ f.name.toList, Text.isBlank c) :
      Offends f (.config "scenario name must not be empty")
  | project {id : String} {failure : Failure} (name : ∃ c ∈ f.name.toList, ¬Text.isBlank c)
      (fixed : f.project = some id) (refused : ProjectId.ofString? id = .error failure) :
      Offends f failure
  | definition {failure : Failure} (name : ∃ c ∈ f.name.toList, ¬Text.isBlank c)
      (project : ∀ id ∈ f.project, ∃ p, ProjectId.ofString? id = .ok p)
      (h : FirstOffence StepDefinition.Valid StepDefinition.Offends (f.steps ++ f.cleanup)
        failure) : Offends f failure

variable {f : ScenarioFile}

theorem isAllBlank_eq_false_iff {text : String} :
    Text.isAllBlank text = false ↔ ∃ c ∈ text.toList, ¬Text.isBlank c := by
  simp [Text.isAllBlank]

theorem checkName_eq_ok_iff : f.checkName = .ok () ↔ ∃ c ∈ f.name.toList, ¬Text.isBlank c := by
  rw [← isAllBlank_eq_false_iff, checkName]
  split <;> simp_all

theorem checkName_eq_error_iff {failure : Failure} :
    f.checkName = .error failure ↔ (∀ c ∈ f.name.toList, Text.isBlank c) ∧
      failure = .config "scenario name must not be empty" := by
  have hblank : Text.isAllBlank f.name ↔ ∀ c ∈ f.name.toList, Text.isBlank c := List.all_eq_true
  rw [← hblank, checkName]
  split
  · next h => simp only [h, Except.error.injEq, true_and, eq_comm]
  · next h => simp only [h, false_and, reduceCtorEq]

theorem checkProject_eq_ok_iff :
    f.checkProject = .ok () ↔ ∀ id ∈ f.project, ∃ p, ProjectId.ofString? id = .ok p := by
  unfold checkProject
  cases f.project with
  | none => simp
  | some id =>
    dsimp only
    cases h : ProjectId.ofString? id <;> simp [Except.map, h]

theorem checkProject_eq_error_iff {failure : Failure} :
    f.checkProject = .error failure ↔
      ∃ id, f.project = some id ∧ ProjectId.ofString? id = .error failure := by
  unfold checkProject
  cases f.project with
  | none => simp
  | some id =>
    dsimp only
    cases h : ProjectId.ofString? id <;> simp [Except.map, h]

/-- Where a definition stands makes no difference. -/
theorem valid_iff : f.Valid ↔ (∃ c ∈ f.name.toList, ¬Text.isBlank c) ∧
    (∀ id ∈ f.project, ∃ p, ProjectId.ofString? id = .ok p) ∧
      ∀ d ∈ f.steps ++ f.cleanup, d.Valid := by
  rw [List.forall_mem_append]
  exact ⟨fun h => ⟨h.name, h.project, h.steps, h.cleanup⟩,
    fun ⟨hname, hproject, hsteps, hcleanup⟩ => ⟨hname, hproject, hsteps, hcleanup⟩⟩

theorem validate_eq_ok_iff_valid : f.validate = .ok () ↔ f.Valid := by
  rw [validate, Sequence.seq_eq_ok_iff, Sequence.seq_eq_ok_iff, checkName_eq_ok_iff,
    checkProject_eq_ok_iff, forM_eq_ok_iff_holds StepDefinition.validate_eq_ok_iff_valid, valid_iff]
  rfl

theorem validate_eq_error_iff {failure : Failure} :
    f.validate = .error failure ↔ f.Offends failure := by
  have hdefinitions : f.definitions.forM StepDefinition.validate = .error failure ↔
      FirstOffence StepDefinition.Valid StepDefinition.Offends (f.steps ++ f.cleanup) failure :=
    forM_eq_error_iff_firstOffence StepDefinition.validate_eq_ok_iff_valid
      StepDefinition.validate_eq_error_iff
  simp only [validate, Sequence.bind_eq_error_iff, checkName_eq_error_iff,
    checkProject_eq_error_iff, hdefinitions]
  constructor
  · rintro (⟨blank, rfl⟩ | ⟨⟨⟩, hname, ⟨id, fixed, refused⟩ | ⟨⟨⟩, hproject, h⟩⟩)
    · exact .name blank
    · exact .project (checkName_eq_ok_iff.1 hname) fixed refused
    · exact .definition (checkName_eq_ok_iff.1 hname) (checkProject_eq_ok_iff.1 hproject) h
  · intro h
    cases h with
    | name blank => exact .inl ⟨blank, rfl⟩
    | @project id _ name fixed refused =>
      exact .inr ⟨(), checkName_eq_ok_iff.2 name, .inl ⟨id, fixed, refused⟩⟩
    | definition name project h =>
      exact .inr ⟨(), checkName_eq_ok_iff.2 name,
        .inr ⟨(), checkProject_eq_ok_iff.2 project, h⟩⟩

/-- A file is accepted exactly if its name says something, its project may be chosen, and each of its
definitions, taken by itself, has actions and only valid ones. If it is not accepted, the failure is
that of the first offence, in the order of name, project, steps and cleanups. So the definitions may
change places, and one more of them is accepted exactly if it is valid. -/
theorem validate_tells_first_offence (f : ScenarioFile) :
    (f.validate = .ok () ↔ f.Valid) ∧
    (∀ failure, f.validate = .error failure ↔ f.Offends failure) ∧
    (∀ steps cleanup, (steps ++ cleanup).Perm (f.steps ++ f.cleanup) →
      ({ f with steps, cleanup }.validate = .ok () ↔ f.validate = .ok ())) ∧
    ∀ d : StepDefinition,
      ({ f with steps := f.steps ++ [d] }.validate = .ok () ↔ f.validate = .ok () ∧ d.Valid) ∧
      ({ f with cleanup := f.cleanup ++ [d] }.validate = .ok () ↔
        f.validate = .ok () ∧ d.Valid) := by
  refine ⟨validate_eq_ok_iff_valid, fun _ => validate_eq_error_iff, fun steps cleanup h => ?_,
    fun d => ⟨?_, ?_⟩⟩
  · simp only [validate_eq_ok_iff_valid, valid_iff, h.mem_iff]
  · simp only [validate_eq_ok_iff_valid, valid_iff, List.mem_append, List.mem_singleton, or_imp,
      forall_and, forall_eq]
    tauto
  · simp only [validate_eq_ok_iff_valid, valid_iff, List.mem_append, List.mem_singleton, or_imp,
      forall_and, forall_eq]
    tauto

/-- The last cleanup of a file may as well be its first step. -/
theorem composeUp_validate_rearranged :
    (composeUp.cleanup ++ composeUp.steps ++ []).Perm (composeUp.steps ++ composeUp.cleanup) ∧
      composeUp.validate = .ok () ∧
      { composeUp with
        steps := composeUp.cleanup ++ composeUp.steps, cleanup := [] }.validate = .ok () := by
  have hperm : (composeUp.cleanup ++ composeUp.steps ++ []).Perm
      (composeUp.steps ++ composeUp.cleanup) := by
    rw [List.append_nil]
    exact List.perm_append_comm
  have hvalid : composeUp.validate = .ok () := by decide +kernel
  obtain ⟨-, -, hplaces, -⟩ := validate_tells_first_offence composeUp
  exact ⟨hperm, hvalid, (hplaces (composeUp.cleanup ++ composeUp.steps) [] hperm).2 hvalid⟩

end ScenarioFile
end ComposeHarness
