import ComposeHarness.Regex

/-!
# Braces in patterns

An opening brace that a pattern comes to outside of classes and escapes starts a counted repetition.
If a word follows it there, the text is no pattern.
-/
namespace ComposeHarness.Regex

namespace Reading

/-- Some steps of reading lead from one progress, with the text that is left there, to another. -/
inductive Comes : Progress → List Char → Progress → List Char → Prop where
  | here (s : Progress) (cs : List Char) : Comes s cs s cs
  | on {s next last : Progress} {cs rest left : List Char}
      (step : s.step (skip s.verbose cs) = .ok (.more next rest)) (h : Comes next rest last left) :
      Comes s cs last left

/-- The text that is left has a fault at its front. -/
def Stuck (s : Progress) (cs : List Char) : Prop := ∃ e, s.step (skip s.verbose cs) = .error e

/-- A reader that comes to a fault reads no pattern. -/
theorem Comes.exists_readFrom_eq_error {s last : Progress} {cs left : List Char}
    (h : Comes s cs last left) (stuck : Stuck last left) (fuel : Nat) :
    ∃ e, readFrom fuel s cs = .error e := by
  induction h generalizing fuel with
  | here s cs =>
    obtain ⟨e, he⟩ := stuck
    cases fuel with
    | zero => exact ⟨_, rfl⟩
    | succ fuel => exact ⟨e, by rw [readFrom, he]⟩
  | on step h ih =>
    cases fuel with
    | zero => exact ⟨_, rfl⟩
    | succ fuel =>
      obtain ⟨e, he⟩ := ih stuck fuel
      exact ⟨e, by rw [readFrom, step]; exact he⟩

/-! ### A word behind a brace -/

theorem skip_cons (verbose : Bool) {c : Char} (hblank : Text.isBlank c = false) (hsign : c ≠ '#')
    (rest : List Char) : skip verbose (c :: rest) = c :: rest := by
  cases verbose with
  | false => rfl
  | true => simp [skip, skipBlank, hblank, hsign]

/-- A character that cannot follow the brace of a counted repetition: it starts no number, and is
neither passed over nor the comma before an upper bound. -/
structure StartsWord (c : Char) : Prop where
  notBlank : Text.isBlank c = false
  notDigit : c.isDigit = false
  notComment : c ≠ '#'
  notComma : c ≠ ','

/-- Where a number is expected, a word is none. -/
theorem decimal_word (verbose : Bool) {c : Char} (h : StartsWord c) (rest : List Char) :
    decimal verbose (c :: rest) =
      (.error "repetition quantifier expects a valid decimal", c :: rest) := by
  have hdrop : (c :: rest).dropWhile Text.isBlank = c :: rest := by
    simp [List.dropWhile, h.notBlank]
  have hdigits : digitsFrom verbose (c :: rest).length (c :: rest) = ([], c :: rest) := by
    simp [digitsFrom, h.notDigit]
  rw [decimal]
  simp only [hdrop, hdigits, skip_cons verbose h.notBlank h.notComment]
  rfl

theorem exists_counted_word_eq_error (verbose : Bool) {c : Char} (h : StartsWord c)
    (rest : List Char) : ∃ e, counted verbose ('\x7b' :: c :: rest) = .error e := by
  have hadvance : advance verbose ('\x7b' :: c :: rest) = c :: rest :=
    skip_cons verbose h.notBlank h.notComment rest
  refine ⟨"repetition quantifier expects a valid decimal", ?_⟩
  rw [counted]
  simp only [hadvance, decimal_word verbose h]
  split
  · next hempty => cases hempty
  · split
    · next heq => cases heq
    · next heq => exact absurd (List.cons.inj heq).1 h.notComma
    · rfl

/-- The reader does not get past a brace with a word behind it. -/
theorem stuck_word (s : Progress) {c : Char} (h : StartsWord c) (rest : List Char) :
    Stuck s ('\x7b' :: c :: rest) := by
  have hskip : skip s.verbose ('\x7b' :: c :: rest) = '\x7b' :: c :: rest :=
    skip_cons s.verbose (by decide) (by decide) _
  obtain ⟨e, he⟩ := exists_counted_word_eq_error s.verbose h rest
  rw [Stuck, hskip, Progress.step]
  split
  · exact ⟨_, rfl⟩
  · exact ⟨e, by rw [he]; rfl⟩

/-! ### The text before a brace -/

/-- A character that is read by itself: it opens nothing, closes nothing and repeats nothing. -/
def IsOrdinary (c : Char) : Prop := c ∉ ['(', ')', '[', '?', '*', '+', '\x7b', '\\']

/-- An ordinary character is read in one step, which leaves the pattern as verbose as it is. -/
theorem exists_step_ordinary (s : Progress) {c : Char} (h : IsOrdinary c) (rest : List Char) :
    ∃ next, s.step (c :: rest) = .ok (.more next rest) ∧ next.verbose = s.verbose := by
  simp only [IsOrdinary, List.mem_cons, List.not_mem_nil, or_false, not_or] at h
  unfold Progress.step
  split <;> simp_all [Progress.add, Progress.branchOff]

theorem exists_comes_ordinary {s : Progress} (hs : s.verbose = false) {front : List Char}
    (h : ∀ c ∈ front, IsOrdinary c) (rest : List Char) :
    ∃ last, Comes s (front ++ rest) last rest := by
  induction front generalizing s with
  | nil => exact ⟨s, .here s rest⟩
  | cons c front ih =>
    obtain ⟨next, hstep, hverbose⟩ := exists_step_ordinary s (h c (by simp)) (front ++ rest)
    obtain ⟨last, hlast⟩ := ih (hverbose.trans hs) fun d hd => h d (by simp [hd])
    exact ⟨last, .on (by simpa [skip, hs] using hstep) hlast⟩

end Reading

/-- The text is accepted as a pattern. -/
def Compiles (pattern : String) : Prop := ∃ re, compile pattern = .ok re

open Reading in
/-- A text whose reading comes to a brace with a word behind it is no pattern. -/
theorem not_compiles_of_comes {pattern : String} {s : Progress} {c : Char} {rest : List Char}
    (h : Comes {} pattern.toList s ('\x7b' :: c :: rest)) (hc : StartsWord c) :
    ¬Compiles pattern := by
  rintro ⟨re, hre⟩
  obtain ⟨e, he⟩ := h.exists_readFrom_eq_error (stuck_word s hc rest) (pattern.toList.length + 1)
  rw [compile, Pattern.read, he] at hre
  cases hre

end ComposeHarness.Regex
