import ComposeHarness.Proofs.Naming.Substitution
import ComposeHarness.ScenarioFile.Validation

/-!
# The texts that hold placeholders

An action has some texts that may hold placeholders. A file that is accepted has had all of them
checked, and a text that passes the check can be expanded for every project and with every
separator.
-/
namespace ComposeHarness

/-- A text passes the check exactly if it can be expanded, whatever the project and separator. -/
theorem checkPlaceholders_eq_ok_iff (scheme : NamingScheme) (project : String) {text : String} :
    checkPlaceholders text = .ok () ↔ ∃ out, scheme.expand text project = .ok out := by
  have hcheck : checkPlaceholders text = .ok () ↔
      ∃ out, NamingScheme.standard.expand text trialProject = .ok out := by
    unfold checkPlaceholders
    cases NamingScheme.standard.expand text trialProject <;> simp [Except.map]
  rw [hcheck, NamingScheme.exists_expand_eq_ok_iff, NamingScheme.exists_expand_eq_ok_iff]

namespace Action

/-- The texts of an action that may hold placeholders, in the order in which it needs them. -/
def templates : Action → List String
  | .run arguments _ _ expect => arguments ++ expect.map (·.matcher.operand)
  | .httpGet url _ _ expect => url :: expect.map Matcher.operand
  | .waitFor arguments expect _ => arguments ++ [expect.matcher.operand]
  | .inspectLabels target _ labels => target :: labels.entries.filterMap (·.2)
  | .inspectMounts target mounts => target :: mounts.filterMap Mount.source

theorem check_of_checkArguments {kind : String} {arguments : List String}
    (h : checkArguments kind arguments = .ok ()) :
    ∀ text ∈ arguments, checkPlaceholders text = .ok () := by
  unfold checkArguments at h
  split at h
  · cases h
  · exact Sequence.forM_eq_ok_iff.1 h

theorem check_of_matcher {m : Matcher} (h : m.validate = .ok ()) :
    checkPlaceholders m.operand = .ok () := by
  obtain ⟨⟨⟩, hcheck, -⟩ := Sequence.bind_eq_ok_iff.1 h
  exact hcheck

/-- An action that is accepted has had all of its texts checked. -/
theorem check_of_validate {a : Action} (h : a.validate = .ok ()) :
    ∀ text ∈ a.templates, checkPlaceholders text = .ok () := by
  cases a with
  | run arguments allowError exitCode expect =>
    obtain ⟨⟨⟩, harguments, hexpect⟩ := Sequence.bind_eq_ok_iff.1 h
    have hmatchers := Sequence.forM_eq_ok_iff.1 hexpect
    simp only [templates, List.forall_mem_append, List.forall_mem_map]
    exact ⟨check_of_checkArguments harguments, fun e he => check_of_matcher (hmatchers e he)⟩
  | httpGet url status timing expect =>
    obtain ⟨⟨⟩, hurl, hexpect⟩ := Sequence.bind_eq_ok_iff.1 h
    have hmatchers := Sequence.forM_eq_ok_iff.1 hexpect
    simp only [templates, List.forall_mem_cons, List.forall_mem_map]
    exact ⟨hurl, fun m hm => check_of_matcher (hmatchers m hm)⟩
  | waitFor arguments expect timing =>
    obtain ⟨⟨⟩, harguments, hexpect⟩ := Sequence.bind_eq_ok_iff.1 h
    simp only [templates, List.forall_mem_append, List.forall_mem_singleton]
    exact ⟨check_of_checkArguments harguments, check_of_matcher hexpect⟩
  | inspectLabels target kind labels =>
    obtain ⟨⟨⟩, htarget, hlabels⟩ := Sequence.bind_eq_ok_iff.1 h
    simp only [templates, List.forall_mem_cons]
    exact ⟨htarget, Sequence.forM_eq_ok_iff.1 hlabels⟩
  | inspectMounts target mounts =>
    obtain ⟨⟨⟩, htarget, hmounts⟩ := Sequence.bind_eq_ok_iff.1 h
    simp only [templates, List.forall_mem_cons]
    exact ⟨htarget, Sequence.forM_eq_ok_iff.1 hmounts⟩

end Action

/-- A file that is accepted has had the actions of all of its definitions accepted. -/
theorem ScenarioFile.validate_of_mem {f : ScenarioFile} (h : f.validate = .ok ())
    {d : StepDefinition} (hd : d ∈ f.definitions) {a : Action} (ha : a ∈ d.actions) :
    a.validate = .ok () := by
  obtain ⟨⟨⟩, -, h⟩ := Sequence.bind_eq_ok_iff.1 h
  obtain ⟨⟨⟩, -, h⟩ := Sequence.bind_eq_ok_iff.1 h
  have hdefinition := Sequence.forM_eq_ok_iff.1 h d hd
  unfold StepDefinition.validate at hdefinition
  split at hdefinition
  · cases hdefinition
  · have haction := Sequence.forM_eq_ok_iff.1 hdefinition a ha
    cases hv : a.validate with
    | ok => rfl
    | error failure => simp [hv, Except.mapError] at haction

end ComposeHarness
