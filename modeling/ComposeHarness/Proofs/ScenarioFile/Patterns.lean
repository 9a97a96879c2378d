import ComposeHarness.Proofs.Regex.Braces
import ComposeHarness.Proofs.ScenarioFile.Templates

/-!
# Patterns with placeholders

A pattern is compiled as it is written when its file is checked, and as it is expanded when its
action is performed. The two are the same text if no group of the pattern is a placeholder. The
brace of a placeholder in the open makes the check fail, whatever the placeholder stands for; one in
a class or behind a backslash passes the check, and what stands there afterwards may not compile.
-/
namespace ComposeHarness

open NamingScheme (Piece Renders StandsFor divide)
open Regex (Compiles)
open Regex.Reading (Comes IsOrdinary StartsWord)

/-! ### Placeholders and their braces -/

/-- The text between two braces stands for the project or a name derived from it. -/
def IsPlaceholder (key : List Char) : Prop :=
  ∃ scheme project value, StandsFor scheme project key value

/-- No innermost group of a text is a placeholder. -/
def WithoutPlaceholders (text : String) : Prop :=
  ∀ key, .group key ∈ divide text.toList → ¬IsPlaceholder key

theorem flatten_of_renders {scheme : NamingScheme} {project : String} {pieces : List Piece}
    {texts : List (List Char)} (h : List.Forall₂ (Renders scheme project) pieces texts)
    (hkeys : ∀ key, .group key ∈ pieces → ¬IsPlaceholder key) :
    texts.flatten = pieces.flatMap Piece.source := by
  induction h with
  | nil => rfl
  | @cons p text pieces texts hp _ ih =>
    have htext : text = p.source := by
      cases hp with
      | plain c => rfl
      | value hv => exact absurd ⟨_, _, _, hv⟩ (hkeys _ (by simp))
      | literal => rfl
    rw [List.flatten_cons, List.flatMap_cons, htext, ih fun key hkey => hkeys key (by simp [hkey])]

/-- Expanding copies a text without placeholders. -/
theorem WithoutPlaceholders.expand_eq {text : String} (h : WithoutPlaceholders text)
    {scheme : NamingScheme} {project out : String} (hout : scheme.expand text project = .ok out) :
    out = text := by
  obtain ⟨texts, hrender, hflat⟩ := NamingScheme.expand_eq_ok_iff.1 hout
  refine String.toList_injective ?_
  rw [hflat, flatten_of_renders hrender h, NamingScheme.flatMap_source_divide]

/-- A placeholder starts with a letter that no repetition starts with. -/
theorem IsPlaceholder.startsWord {key : List Char} (h : IsPlaceholder key) :
    ∃ c rest, key = c :: rest ∧ StartsWord c := by
  obtain ⟨scheme, project, value, h⟩ := h
  have hletter : ∀ c ∈ ['p', 'c', 'n', 'v', 'i'], StartsWord c := by
    simp only [List.forall_mem_cons, List.not_mem_nil, false_imp_iff, implies_true, and_true]
    refine ⟨?_, ?_, ?_, ?_, ?_⟩ <;> exact ⟨by decide, by decide, by decide, by decide⟩
  cases h with
  | project => exact ⟨_, _, rfl, hletter 'p' (by simp)⟩
  | container => exact ⟨_, _, rfl, hletter 'c' (by simp)⟩
  | indexed => exact ⟨_, _, rfl, hletter 'c' (by simp)⟩
  | @resource kind name hkind named =>
    cases kind with
    | container => exact absurd rfl hkind
    | network => exact ⟨_, _, rfl, hletter 'n' (by simp)⟩
    | volume => exact ⟨_, _, rfl, hletter 'v' (by simp)⟩
    | image => exact ⟨_, _, rfl, hletter 'i' (by simp)⟩

/-- A pattern whose reading comes to a placeholder does not compile. -/
theorem IsPlaceholder.not_compiles {key : List Char} (h : IsPlaceholder key) {pattern : String}
    {s : Regex.Reading.Progress} {after : List Char}
    (hcomes : Comes {} pattern.toList s ('\x7b' :: (key ++ '\x7d' :: after))) :
    ¬Compiles pattern := by
  obtain ⟨c, rest, rfl, hc⟩ := h.startsWord
  exact Regex.not_compiles_of_comes hcomes hc

/-! ### The check of a pattern -/

namespace Matcher

/-- The matcher can be evaluated on every text. -/
def Usable (m : Matcher) : Prop := ∀ text, ∃ holds, m.evaluate text = .ok holds

theorem usable_pattern_iff {p : String} : (pattern p).Usable ↔ Compiles p := by
  unfold Usable Compiles
  cases h : Regex.compile p with
  | ok re => simp [evaluate, h]
  | error cause => simp [evaluate, h]

theorem checkPattern_pattern_iff {p : String} :
    (pattern p).checkPattern = .ok () ↔ Compiles p := by
  unfold checkPattern Compiles
  cases h : Regex.compile p <;> simp [h]

/-- A pattern is accepted if its placeholders expand and it compiles as it is written. -/
theorem validate_pattern_iff (scheme : NamingScheme) (project : String) {p : String} :
    (pattern p).validate = .ok () ↔
      (∃ out, scheme.expand p project = .ok out) ∧ Compiles p := by
  rw [validate, Sequence.bind_eq_ok_iff, ← checkPlaceholders_eq_ok_iff, ← checkPattern_pattern_iff]
  exact ⟨fun ⟨⟨⟩, h⟩ => h, fun h => ⟨(), h⟩⟩

/-- The check accepts a pattern exactly if it is one that expands and then compiles. -/
def Settled (scheme : NamingScheme) (project p : String) : Prop :=
  (pattern p).validate = .ok () ↔ ∃ out, scheme.expand p project = .ok out ∧ Compiles out

theorem settled_iff {scheme : NamingScheme} {project p : String} :
    Settled scheme project p ↔
      ∀ out, scheme.expand p project = .ok out → (Compiles p ↔ Compiles out) := by
  rw [Settled, validate_pattern_iff scheme project]
  cases h : scheme.expand p project with
  | error failure => simp
  | ok out => simp

end Matcher

theorem WithoutPlaceholders.settled {p : String} (h : WithoutPlaceholders p) (scheme : NamingScheme)
    (project : String) : Matcher.Settled scheme project p :=
  Matcher.settled_iff.2 fun out hout => by rw [h.expand_eq hout]

/-! ### The patterns of a file -/

namespace Action

/-- The matchers that an action evaluates. -/
def matchers : Action → List Matcher
  | .run _ _ _ expect => expect.map (·.matcher)
  | .httpGet _ _ _ expect => expect
  | .waitFor _ expect _ => [expect.matcher]
  | .inspectLabels .. | .inspectMounts .. => []

/-- An action that is accepted has had its matchers accepted. -/
theorem validate_matcher {a : Action} (h : a.validate = .ok ()) {m : Matcher}
    (hm : m ∈ a.matchers) : m.validate = .ok () := by
  cases a with
  | run arguments allowError exitCode expect =>
    obtain ⟨⟨⟩, -, hexpect⟩ := Sequence.bind_eq_ok_iff.1 h
    obtain ⟨e, he, rfl⟩ := List.mem_map.1 hm
    exact Sequence.forM_eq_ok_iff.1 hexpect e he
  | httpGet url status timing expect =>
    obtain ⟨⟨⟩, -, hexpect⟩ := Sequence.bind_eq_ok_iff.1 h
    exact Sequence.forM_eq_ok_iff.1 hexpect m hm
  | waitFor arguments expect timing =>
    obtain ⟨⟨⟩, -, hexpect⟩ := Sequence.bind_eq_ok_iff.1 h
    cases List.mem_singleton.1 hm
    exact hexpect
  | inspectLabels target kind labels => cases hm
  | inspectMounts target mounts => cases hm

end Action

/-- While an accepted file is run, a pattern of it can be used exactly if it is settled. -/
theorem ScenarioFile.usable_iff_settled {f : ScenarioFile} (h : f.validate = .ok ())
    {d : StepDefinition} (hd : d ∈ f.definitions) {a : Action} (ha : a ∈ d.actions)
    {p : String} (hp : .pattern p ∈ a.matchers) (scheme : NamingScheme) (project : String) :
    (∃ m, (Matcher.pattern p).mapOperand (scheme.expand · project) = .ok m ∧ m.Usable) ↔
      Matcher.Settled scheme project p := by
  have haccepted : (Matcher.pattern p).validate = .ok () :=
    Action.validate_matcher (validate_of_mem h hd ha) hp
  rw [Matcher.Settled, iff_true_left haccepted]
  cases hout : scheme.expand p project with
  | error failure => simp [Matcher.mapOperand, Matcher.operand, hout, Except.map]
  | ok out =>
    simp [Matcher.mapOperand, Matcher.operand, Matcher.withOperand, hout, Except.map,
      Matcher.usable_pattern_iff]

/-- The check settles a pattern exactly if the text as it is written compiles whenever the expanded
one does, and the other way round. Patterns without placeholders are settled for every project and
separator; a placeholder in the open is always rejected. In a file that is accepted, the settled
patterns are those that are not found invalid when it is run. -/
theorem Matcher.validate_settles_patterns (scheme : NamingScheme) (project p : String) :
    ((pattern p).validate = .ok () ↔
      (∃ out, scheme.expand p project = .ok out) ∧ Compiles p) ∧
    (Settled scheme project p ↔
      ∀ out, scheme.expand p project = .ok out → (Compiles p ↔ Compiles out)) ∧
    (WithoutPlaceholders p → Settled scheme project p) ∧
    (∀ s key after, IsPlaceholder key →
      Comes {} p.toList s ('\x7b' :: (key ++ '\x7d' :: after)) → (pattern p).validate ≠ .ok ()) ∧
    (∀ before key after, IsPlaceholder key → (∀ c ∈ before, IsOrdinary c) →
      p.toList = before ++ '\x7b' :: (key ++ '\x7d' :: after) → (pattern p).validate ≠ .ok ()) ∧
    ∀ f : ScenarioFile, f.validate = .ok () → ∀ d ∈ f.definitions, ∀ a ∈ d.actions,
      pattern p ∈ a.matchers →
      ((∃ m, (pattern p).mapOperand (scheme.expand · project) = .ok m ∧ m.Usable) ↔
        Settled scheme project p) := by
  have hrejected : ∀ s key after, IsPlaceholder key →
      Comes {} p.toList s ('\x7b' :: (key ++ '\x7d' :: after)) →
      (pattern p).validate ≠ .ok () := by
    intro s key after hkey hcomes hvalid
    exact hkey.not_compiles hcomes ((validate_pattern_iff scheme project).1 hvalid).2
  refine ⟨validate_pattern_iff scheme project, settled_iff, fun h => h.settled scheme project,
    hrejected, fun before key after hkey hbefore hp => ?_, fun f h d hd a ha hp =>
    f.usable_iff_settled h hd ha hp scheme project⟩
  obtain ⟨s, hcomes⟩ := Regex.Reading.exists_comes_ordinary (s := {}) rfl hbefore
    ('\x7b' :: (key ++ '\x7d' :: after))
  exact hrejected s key after hkey (hp ▸ hcomes)

/-- A placeholder in the open is rejected though the expanded pattern compiles, and one behind a
backslash is accepted though the expanded pattern does not. -/
theorem placeholders_unsettle_patterns :
    (Matcher.pattern "^{container:web} up").validate ≠ .ok () ∧
      NamingScheme.standard.expand "^{container:web} up" "demo" = .ok "^demo_web_1 up" ∧
      Compiles "^demo_web_1 up" ∧
    (Matcher.pattern "\\{project}").validate = .ok () ∧
      ProjectId.ofString? "yy" = .ok ⟨"yy"⟩ ∧
      NamingScheme.standard.expand "\\{project}" "yy" = .ok "\\yy" ∧ ¬Compiles "\\yy" := by
  refine ⟨by decide +kernel, by decide +kernel, ?_, by decide +kernel, rfl, by decide +kernel, ?_⟩
  · exact Matcher.checkPattern_pattern_iff.1 (by decide +kernel)
  · exact fun h => absurd (Matcher.checkPattern_pattern_iff.2 h) (by decide +kernel)

end ComposeHarness
