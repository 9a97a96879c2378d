import ComposeHarness.Command.Result
import ComposeHarness.Proofs.Sequence

/-!
# When an expectation holds

An expectation is a condition on one of the texts of a result. Checking it succeeds exactly if the
condition holds, and tells otherwise why it does not: the text is another one, or the pattern cannot
be used. A list of expectations is judged by the first that does not hold.
-/
namespace ComposeHarness

/-! ### Texts that differ in the blanks at their ends -/

namespace Text

def AllBlank (cs : List Char) : Prop := ∀ c ∈ cs, isBlank c

/-- The texts are the same up to the blanks at their ends. -/
def SameUpToBlankEnd (a b : List Char) : Prop :=
  ∃ core blanks blanks', AllBlank blanks ∧ AllBlank blanks' ∧ a = core ++ blanks ∧
    b = core ++ blanks'

theorem dropBlankEnd_cons (c : Char) (cs : List Char) :
    dropBlankEnd (c :: cs) =
      if (dropBlankEnd cs).isEmpty && isBlank c then [] else c :: dropBlankEnd cs := rfl

/-- What is dropped at the end of a text is blank. -/
theorem exists_dropBlankEnd_append (cs : List Char) :
    ∃ blanks, AllBlank blanks ∧ cs = dropBlankEnd cs ++ blanks := by
  induction cs with
  | nil => exact ⟨[], by simp [AllBlank], rfl⟩
  | cons c cs ih =>
    obtain ⟨blanks, hblank, hcs⟩ := ih
    rw [dropBlankEnd_cons]
    split
    · next h =>
      have hempty : dropBlankEnd cs = [] ∧ isBlank c := by simpa using h
      rw [hempty.1, List.nil_append] at hcs
      exact ⟨c :: cs, by simpa [AllBlank, hempty.2, hcs] using hblank, rfl⟩
    · exact ⟨blanks, hblank, by rw [List.cons_append, ← hcs]⟩

theorem dropBlankEnd_append {blanks : List Char} (h : AllBlank blanks) (cs : List Char) :
    dropBlankEnd (cs ++ blanks) = dropBlankEnd cs := by
  induction cs with
  | nil => exact (dropBlankEnd_eq_nil_iff _).2 h
  | cons c cs ih => rw [List.cons_append, dropBlankEnd_cons, ih, dropBlankEnd_cons]

theorem trimEnd_eq_iff {a b : String} :
    trimEnd a = trimEnd b ↔ SameUpToBlankEnd a.toList b.toList := by
  have hlist : trimEnd a = trimEnd b ↔ dropBlankEnd a.toList = dropBlankEnd b.toList :=
    ⟨fun h => by simpa [trimEnd] using congrArg String.toList h, congrArg String.ofList⟩
  rw [hlist]
  constructor
  · intro h
    obtain ⟨blanks, hblank, ha⟩ := exists_dropBlankEnd_append a.toList
    obtain ⟨blanks', hblank', hb⟩ := exists_dropBlankEnd_append b.toList
    exact ⟨dropBlankEnd a.toList, blanks, blanks', hblank, hblank', ha, h ▸ hb⟩
  · rintro ⟨core, blanks, blanks', hblank, hblank', ha, hb⟩
    rw [ha, hb, dropBlankEnd_append hblank, dropBlankEnd_append hblank']

end Text

/-! ### Matchers -/

namespace Matcher

/-- The condition that a matcher puts on a text. A pattern that cannot be used holds of no text. -/
def Holds (text : String) : Matcher → Prop
  | .contains s => s.toList <:+: text.toList
  | .notContains s => ¬s.toList <:+: text.toList
  | .equals s => Text.SameUpToBlankEnd text.toList s.toList
  | .pattern p => ∃ re, Regex.compile p = .ok re ∧ re.isMatch text = true

/-- How a matcher refuses a text. -/
inductive Refuses (subject text : String) (m : Matcher) : Failure → Prop
  /-- The matcher can be used, and does not hold. -/
  | unmet (usable : ∀ p, m = .pattern p → ∃ re, Regex.compile p = .ok re)
      (h : ¬m.Holds text) : Refuses subject text m (.expectation m.describe subject text)
  | unusable {p : String} {cause : RegexError} (pattern : m = .pattern p)
      (h : Regex.compile p = .error cause) :
      Refuses subject text m
        (.expectation (m.describe ++ " (" ++ invalidPattern p cause ++ ")") subject text)

theorem contains_iff {needle text : String} :
    Text.contains needle text = true ↔ needle.toList <:+: text.toList := by
  rw [Text.contains, Text.occursIn_iff]
  exact ⟨fun ⟨before, after, h⟩ => ⟨before, after, h.symm⟩,
    fun ⟨before, after, h⟩ => ⟨before, after, h.symm⟩⟩

/-- What comes of evaluating a matcher: whether it holds, or why it cannot be used. -/
theorem evaluate_cases (m : Matcher) (text : String) :
    (m.evaluate text = .ok true ∧ m.Holds text) ∨
      (m.evaluate text = .ok false ∧ ¬m.Holds text ∧
        ∀ p, m = .pattern p → ∃ re, Regex.compile p = .ok re) ∨
      ∃ p cause, m = .pattern p ∧ Regex.compile p = .error cause ∧ ¬m.Holds text ∧
        m.evaluate text = .error (invalidPattern p cause) := by
  cases m with
  | contains s =>
    by_cases h : Text.contains s text
    · exact .inl ⟨by simp [evaluate, h], contains_iff.1 h⟩
    · exact .inr (.inl ⟨by simp [evaluate, h], mt contains_iff.2 h, by simp⟩)
  | notContains s =>
    by_cases h : Text.contains s text
    · exact .inr (.inl ⟨by simp [evaluate, h], not_not.2 (contains_iff.1 h), by simp⟩)
    · exact .inl ⟨by simp [evaluate, h], mt contains_iff.2 h⟩
  | equals s =>
    by_cases h : Text.trimEnd text = Text.trimEnd s
    · exact .inl ⟨by simp [evaluate, h], Text.trimEnd_eq_iff.1 h⟩
    · exact .inr (.inl ⟨by simp [evaluate, h], mt Text.trimEnd_eq_iff.2 h, by simp⟩)
  | pattern p =>
    cases hp : Regex.compile p with
    | error cause =>
      exact .inr (.inr ⟨p, cause, rfl, hp, by simp [Holds, hp], by simp [evaluate, hp]⟩)
    | ok re =>
      by_cases h : re.isMatch text
      · exact .inl ⟨by simp [evaluate, hp, h], re, hp, h⟩
      · refine .inr (.inl ⟨by simp [evaluate, hp, h], by simp [Holds, hp, h], ?_⟩)
        rintro _ ⟨⟩
        exact ⟨re, hp⟩

theorem evaluate_eq_ok_true_iff {m : Matcher} {text : String} :
    m.evaluate text = .ok true ↔ m.Holds text := by
  rcases m.evaluate_cases text with ⟨heval, h⟩ | ⟨heval, h, -⟩ | ⟨p, cause, -, -, h, heval⟩ <;>
    simp [heval, h]

theorem check_eq_ok_iff {m : Matcher} {subject text : String} :
    m.check subject text = .ok () ↔ m.Holds text := by
  rcases m.evaluate_cases text with ⟨heval, h⟩ | ⟨heval, h, -⟩ | ⟨p, cause, -, -, h, heval⟩ <;>
    simp [check, heval, h]

theorem check_eq_error_iff {m : Matcher} {subject text : String} {failure : Failure} :
    m.check subject text = .error failure ↔ m.Refuses subject text failure := by
  constructor
  · intro hcheck
    rcases m.evaluate_cases text with ⟨heval, h⟩ | ⟨heval, h, usable⟩ | ⟨p, cause, hm, hp, h, heval⟩
    · simp [check, heval] at hcheck
    · obtain rfl : _ = failure := by simpa [check, heval] using hcheck
      exact .unmet usable h
    · obtain rfl : _ = failure := by simpa [check, heval] using hcheck
      exact .unusable hm hp
  · intro h
    cases h with
    | unmet usable h =>
      rcases m.evaluate_cases text with ⟨-, h'⟩ | ⟨heval, -⟩ | ⟨p, cause, hm, hp, -⟩
      · exact absurd h' h
      · simp [check, heval]
      · obtain ⟨re, hre⟩ := usable p hm
        cases hre.symm.trans hp
    | unusable hm hp =>
      subst hm
      simp [check, evaluate, hp]

end Matcher

/-! ### Results of commands -/

namespace Expectation

/-- The condition holds of the text that the expectation speaks of. -/
def Holds (r : Command.Result) (e : Expectation) : Prop := e.matcher.Holds (r.text e.stream)

/-- How a result is refused. -/
def Refuses (r : Command.Result) (e : Expectation) : Failure → Prop :=
  e.matcher.Refuses (e.stream.label ++ " of '" ++ r.command ++ "'") (r.text e.stream)

end Expectation

namespace Command.Result

theorem check_eq_ok_iff {r : Result} {e : Expectation} : r.check e = .ok () ↔ e.Holds r :=
  Matcher.check_eq_ok_iff

theorem check_eq_error_iff {r : Result} {e : Expectation} {failure : Failure} :
    r.check e = .error failure ↔ e.Refuses r failure :=
  Matcher.check_eq_error_iff

/-- The first expectation that does not hold says how the result is refused. -/
theorem checkAll_eq_error_iff {r : Result} {es : List Expectation} {failure : Failure} :
    r.checkAll es = .error failure ↔ ∃ before e after, es = before ++ e :: after ∧
      (∀ b ∈ before, b.Holds r) ∧ e.Refuses r failure := by
  simp only [checkAll, Sequence.forM_eq_error_iff, check_eq_ok_iff, check_eq_error_iff]

end Command.Result
end ComposeHarness
