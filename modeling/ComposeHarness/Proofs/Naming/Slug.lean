import Mathlib.Data.List.Basic
import Mathlib.Data.List.Chain
import Mathlib.Data.List.TakeWhile
import ComposeHarness.Proofs.Naming.Sharing

/-!
# Generated identifiers

A generated identifier starts with the words of a scenario's name: its maximal runs of letters and
digits, in lower case and with one hyphen between any two. The loop that makes this stem sees one
character at a time, and knows only how the stem ends so far.
-/
namespace ComposeHarness

/-! ### Maximal runs -/

/-- The maximal runs of characters with a property, in their order. A character without it is in no
run, and after a run comes such a character or the end. -/
inductive Text.Runs (p : Char → Bool) : List Char → List (List Char) → Prop where
  | nil : Runs p [] []
  | skip {c : Char} {rest : List Char} {runs : List (List Char)} (gap : p c = false)
      (h : Runs p rest runs) : Runs p (c :: rest) runs
  | run {run rest : List Char} {runs : List (List Char)} (nonempty : run ≠ [])
      (all : ∀ c ∈ run, p c) (ends : ∀ c ∈ rest.head?, p c = false) (h : Runs p rest runs) :
      Runs p (run ++ rest) (run :: runs)

namespace Text.Runs

variable {p : Char → Bool} {cs run rest : List Char} {runs : List (List Char)}

theorem forall_mem (h : Runs p cs runs) : ∀ run ∈ runs, run ≠ [] ∧ ∀ c ∈ run, p c := by
  induction h with
  | nil => simp
  | skip _ _ ih => exact ih
  | run nonempty all _ _ ih => exact List.forall_mem_cons.2 ⟨⟨nonempty, all⟩, ih⟩

/-- The first run is all that comes before the first gap. -/
theorem takeWhile_append (all : ∀ c ∈ run, p c) (ends : ∀ c ∈ rest.head?, p c = false) :
    (run ++ rest).takeWhile p = run := by
  rw [List.takeWhile_append_of_pos all]
  cases rest with
  | nil => simp
  | cons c rest => simp [ends c rfl]

theorem of_cons {c : Char} (h : Runs p (c :: cs) runs) (gap : p c = false) : Runs p cs runs := by
  generalize hall : c :: cs = all at h
  cases h with
  | nil => cases hall
  | skip _ h =>
    cases hall
    exact h
  | @run run rest runs nonempty all _ h =>
    obtain ⟨d, run, rfl⟩ := List.exists_cons_of_ne_nil nonempty
    cases hall
    rw [all c List.mem_cons_self] at gap
    cases gap

theorem of_append (h : Runs p (run ++ rest) runs) (nonempty : run ≠ []) (all : ∀ c ∈ run, p c)
    (ends : ∀ c ∈ rest.head?, p c = false) : ∃ later, runs = run :: later ∧ Runs p rest later := by
  generalize htext : run ++ rest = text at h
  obtain ⟨c, tail, rfl⟩ := List.exists_cons_of_ne_nil nonempty
  cases h with
  | nil => cases htext
  | skip gap _ =>
    cases htext
    rw [all c List.mem_cons_self] at gap
    cases gap
  | @run run' rest' later nonempty' all' ends' h =>
    have hrun : c :: tail = run' := by
      rw [← takeWhile_append all ends, htext, takeWhile_append all' ends']
    subst hrun
    obtain rfl : rest = rest' := List.append_cancel_left htext
    exact ⟨later, rfl, h⟩

/-- A text has no maximal runs but its own. -/
theorem unique {other : List (List Char)} (h : Runs p cs runs) (h' : Runs p cs other) :
    other = runs := by
  induction h generalizing other with
  | nil =>
    generalize hnil : [] = cs at h'
    cases h' with
    | nil => rfl
    | skip => cases hnil
    | run nonempty => exact absurd (List.append_eq_nil_iff.1 hnil.symm).1 nonempty
  | skip gap _ ih => exact ih (h'.of_cons gap)
  | run nonempty all ends _ ih =>
    obtain ⟨later, rfl, hlater⟩ := h'.of_append nonempty all ends
    rw [ih hlater]

end Text.Runs

theorem Text.exists_runs (p : Char → Bool) (cs : List Char) : ∃ runs, Runs p cs runs := by
  induction hlength : cs.length using Nat.strong_induction_on generalizing cs with
  | _ n ih =>
    cases cs with
    | nil => exact ⟨[], .nil⟩
    | cons c rest =>
      by_cases hc : p c
      · have htake : c :: rest.takeWhile p ++ rest.dropWhile p = c :: rest := by
          rw [List.cons_append, List.takeWhile_append_dropWhile]
        obtain ⟨runs, h⟩ := ih (rest.dropWhile p).length (by
          have := (List.dropWhile_sublist p (l := rest)).length_le
          rw [List.length_cons] at hlength
          omega) _ rfl
        rw [← htake]
        refine ⟨_, .run (by simp) ?_ ?_ h⟩
        · exact List.forall_mem_cons.2 ⟨hc, fun d hd => List.mem_takeWhile_imp hd⟩
        · intro d hd
          have := List.head?_dropWhile_not p rest
          rw [hd] at this
          exact this
      · obtain ⟨runs, h⟩ := ih rest.length (by simp [← hlength]) _ rfl
        exact ⟨runs, .skip (by simpa using hc) h⟩

namespace ProjectId

/-! ### The loop -/

/-- Runs in lower case, with one hyphen between any two. -/
def joined (runs : List (List Char)) : List Char :=
  List.intercalate ['-'] (runs.map (List.map Char.toLower))

@[simp] theorem joined_nil : joined [] = [] := List.intercalate_nil

@[simp] theorem joined_singleton (run : List Char) : joined [run] = run.map Char.toLower :=
  List.intercalate_singleton

theorem joined_cons {run : List Char} {runs : List (List Char)} (h : runs ≠ []) :
    joined (run :: runs) = run.map Char.toLower ++ '-' :: joined runs := by
  have hmap : runs.map (List.map Char.toLower) ≠ [] := by simpa using h
  rw [joined, List.map_cons, List.intercalate_cons_of_ne_nil hmap, List.append_assoc]
  rfl

/-- Nothing or a hyphen is at the end of the slug, so that a gap adds nothing to it. -/
def Settled (reversed : List Char) : Prop := ∀ c ∈ reversed.head?, c = '-'

theorem slugStep_gap {c : Char} (gap : c.isAlphanum = false) {reversed : List Char}
    (h : Settled reversed) : slugStep reversed c = reversed := by
  cases reversed with
  | nil => simp [slugStep, gap]
  | cons d reversed =>
    obtain rfl : d = '-' := h d rfl
    simp [slugStep, gap]

/-- A gap after a run adds a hyphen. -/
theorem slugStep_gap_after {c d : Char} (gap : c.isAlphanum = false) (h : d ≠ '-')
    (reversed : List Char) : slugStep (d :: reversed) c = '-' :: d :: reversed := by
  unfold slugStep
  rw [gap]
  split
  · contradiction
  · split <;> simp_all

theorem foldl_slugStep_run {run : List Char} (all : ∀ c ∈ run, c.isAlphanum)
    (reversed : List Char) :
    run.foldl slugStep reversed = (run.map Char.toLower).reverse ++ reversed := by
  induction run generalizing reversed with
  | nil => rfl
  | cons c run ih =>
    obtain ⟨hc, all⟩ := List.forall_mem_cons.1 all
    have hstep : slugStep reversed c = c.toLower :: reversed := by simp [slugStep, hc]
    rw [List.foldl_cons, hstep, ih all, List.map_cons, List.reverse_cons, List.append_assoc]
    rfl

/-- A letter in lower case, or a digit. -/
def isSlugChar (c : Char) : Bool := isLower c || c.isDigit

/-- Letters and digits are these and the capital letters. -/
theorem isAlphanum_eq (c : Char) : c.isAlphanum = (c.isUpper || isSlugChar c) :=
  Bool.or_assoc c.isUpper c.isLower c.isDigit

theorem isSlugChar_toLower {c : Char} (h : c.isAlphanum) : isSlugChar c.toLower := by
  unfold Char.toLower
  split
  · next hupper =>
    simp only [isSlugChar, isLower, Char.le_def, UInt32.le_iff_toNat_le, ge_iff_le,
      Bool.or_eq_true, Bool.and_eq_true, decide_eq_true_eq] at hupper ⊢
    refine .inl ?_
    simp at hupper ⊢
    omega
  · next hupper =>
    rw [isAlphanum_eq, Bool.or_eq_true] at h
    exact h.resolve_left fun hcapital => hupper (of_decide_eq_true hcapital)

theorem isSlugChar_ne {c : Char} (h : isSlugChar c) : c ≠ '-' ∧ c ≠ '_' := by
  constructor <;> rintro rfl <;> exact absurd h (by decide)

/-- The loop adds the runs to a slug that ends with a hyphen or is empty. What it adds ends with a
hyphen if the text ends with a gap, which is why hyphens at the end are left out of account. -/
theorem dropWhile_foldl_slugStep {cs : List Char} {runs : List (List Char)}
    (h : Text.Runs Char.isAlphanum cs runs) {reversed : List Char} (settled : Settled reversed) :
    (cs.foldl slugStep reversed).dropWhile (· == '-') =
      if runs = [] then reversed.dropWhile (· == '-') else (joined runs).reverse ++ reversed := by
  induction h generalizing reversed with
  | nil => simp
  | skip gap _ ih => rw [List.foldl_cons, slugStep_gap gap settled, ih settled]
  | @run run rest runs nonempty all ends h ih =>
    obtain ⟨last, front, hlast⟩ :=
      List.exists_cons_of_ne_nil (l := (run.map Char.toLower).reverse) (by simpa using nonempty)
    have hletter : last ≠ '-' := by
      have hmem : last ∈ (run.map Char.toLower).reverse := hlast ▸ List.mem_cons_self
      obtain ⟨c, hc, rfl⟩ := List.mem_map.1 (List.mem_reverse.1 hmem)
      exact (isSlugChar_ne (isSlugChar_toLower (all c hc))).1
    have hdrop : (last :: (front ++ reversed)).dropWhile (· == '-') =
        last :: (front ++ reversed) := by
      simp [hletter]
    rw [List.foldl_append, foldl_slugStep_run all, if_neg (List.cons_ne_nil _ _)]
    cases rest with
    | nil =>
      obtain rfl := Text.Runs.nil.unique h
      rw [List.foldl_nil, joined_singleton, hlast, List.cons_append, hdrop]
    | cons c rest =>
      -- The gap adds a hyphen, after which the slug is settled and the gap would add nothing.
      have gap : c.isAlphanum = false := ends c rfl
      have hsettled : Settled ('-' :: last :: (front ++ reversed)) := by simp [Settled]
      have hgap := ih hsettled
      rw [List.foldl_cons, slugStep_gap gap hsettled] at hgap
      rw [hlast, List.foldl_cons, List.cons_append, slugStep_gap_after gap hletter, hgap]
      split
      · next hruns =>
        subst hruns
        rw [joined_singleton, hlast, List.dropWhile_cons_of_pos (by rfl), hdrop]
        rfl
      · next hruns =>
        simp [joined_cons hruns, hlast]

/-- The slug of a text is made up of its runs. -/
theorem slug_eq_joined {text : String} {runs : List (List Char)}
    (h : Text.Runs Char.isAlphanum text.toList runs) : slug text = joined runs := by
  have settled : Settled [] := by simp [Settled]
  rw [slug, dropWhile_foldl_slugStep h settled]
  split
  · next hruns => simp [hruns]
  · simp

/-! ### What stems look like -/

theorem isAlphanum_of_isSlugChar {c : Char} (h : isSlugChar c) : c.isAlphanum := by
  rw [isAlphanum_eq, h, Bool.or_true]

theorem toLower_of_isSlugChar {c : Char} (h : isSlugChar c) : c.toLower = c := by
  unfold Char.toLower
  split
  · next hupper =>
    simp only [isSlugChar, isLower, Char.isDigit, Char.le_def, UInt32.le_iff_toNat_le, ge_iff_le,
      Bool.or_eq_true, Bool.and_eq_true, decide_eq_true_eq] at h hupper
    simp at h hupper
    omega
  · rfl

/-- Words of lower-case letters and digits, with one hyphen between any two. -/
structure IsStem (stem : List Char) : Prop where
  nonempty : stem ≠ []
  chars : ∀ c ∈ stem, isSlugChar c ∨ c = '-'
  head : stem.head? ≠ some '-'
  last : stem.getLast? ≠ some '-'
  single : stem.IsChain fun c d => ¬(c = '-' ∧ d = '-')

theorem isStem_word {word : List Char} (nonempty : word ≠ []) (h : ∀ c ∈ word, isSlugChar c) :
    IsStem word where
  nonempty := nonempty
  chars c hc := .inl (h c hc)
  head hhead := (isSlugChar_ne (h _ (List.mem_of_head? hhead))).1 rfl
  last hlast := (isSlugChar_ne (h _ (List.mem_of_getLast? hlast))).1 rfl
  single := by
    refine List.Pairwise.isChain (List.pairwise_of_forall_mem_list fun c hc d _ => ?_)
    exact fun hboth => (isSlugChar_ne (h c hc)).1 hboth.1

theorem isStem_append {word stem : List Char} (hword : IsStem word) (hstem : IsStem stem) :
    IsStem (word ++ '-' :: stem) where
  nonempty := by simp
  chars := by
    simp only [List.forall_mem_append, List.forall_mem_cons]
    exact ⟨hword.chars, .inr trivial, hstem.chars⟩
  head := by
    obtain ⟨c, word, rfl⟩ := List.exists_cons_of_ne_nil hword.nonempty
    exact hword.head
  last := by
    rw [List.getLast?_append_cons, List.getLast?_cons_of_ne_nil hstem.nonempty]
    exact hstem.last
  single := by
    rw [List.isChain_append]
    refine ⟨hword.single, ?_, ?_⟩
    · refine List.isChain_cons.2 ⟨fun c hc hboth => ?_, hstem.single⟩
      exact hstem.head (hboth.2 ▸ hc)
    · intro c hc d _ hboth
      exact hword.last (hboth.1 ▸ hc)

/-- The word that a run becomes. -/
theorem isSlugChar_word {run : List Char} (h : ∀ c ∈ run, c.isAlphanum) :
    ∀ c ∈ run.map Char.toLower, isSlugChar c :=
  List.forall_mem_map.2 fun c hc => isSlugChar_toLower (h c hc)

theorem isStem_joined {runs : List (List Char)} (some : runs ≠ [])
    (h : ∀ run ∈ runs, run ≠ [] ∧ ∀ c ∈ run, c.isAlphanum) : IsStem (joined runs) := by
  induction runs with
  | nil => exact absurd rfl some
  | cons run runs ih =>
    obtain ⟨⟨nonempty, all⟩, hruns⟩ := List.forall_mem_cons.1 h
    have hword : IsStem (run.map Char.toLower) :=
      isStem_word (by simpa using nonempty) (isSlugChar_word all)
    by_cases hnil : runs = []
    · simpa [hnil] using hword
    · rw [joined_cons hnil]
      exact isStem_append hword (ih hnil hruns)

/-- The runs of a slug are its words. -/
theorem runs_joined {runs : List (List Char)}
    (h : ∀ run ∈ runs, run ≠ [] ∧ ∀ c ∈ run, c.isAlphanum) :
    Text.Runs Char.isAlphanum (joined runs) (runs.map (List.map Char.toLower)) := by
  induction runs with
  | nil => exact .nil
  | cons run runs ih =>
    obtain ⟨⟨nonempty, all⟩, hruns⟩ := List.forall_mem_cons.1 h
    have hword : run.map Char.toLower ≠ [] := by simpa using nonempty
    have hall : ∀ c ∈ run.map Char.toLower, c.isAlphanum := fun c hc =>
      isAlphanum_of_isSlugChar (isSlugChar_word all c hc)
    by_cases hnil : runs = []
    · subst hnil
      simpa using Text.Runs.run hword hall (by simp) .nil
    · rw [joined_cons hnil]
      exact .run hword hall (by simp) (.skip (by decide) (ih hruns))

/-- A slug is its own slug. -/
theorem slug_joined {runs : List (List Char)}
    (h : ∀ run ∈ runs, run ≠ [] ∧ ∀ c ∈ run, c.isAlphanum) :
    slug (String.ofList (joined runs)) = joined runs := by
  have hlower : (runs.map (List.map Char.toLower)).map (List.map Char.toLower) =
      runs.map (List.map Char.toLower) := by
    rw [List.map_map]
    refine List.map_congr_left fun run hrun => ?_
    refine (List.map_congr_left fun c hc => ?_).trans (List.map_id _)
    exact toLower_of_isSlugChar (isSlugChar_word (h run hrun).2 c hc)
  rw [slug_eq_joined (by simpa using runs_joined h), joined, joined, hlower]

/-! ### Identifiers -/

/-- What an identifier starts with that is made from a text with these runs. -/
def stemOf (runs : List (List Char)) : List Char :=
  if runs = [] then "scenario".toList else joined runs

theorem text_generate {name : String} {runs : List (List Char)}
    (h : Text.Runs Char.isAlphanum name.toList runs) (seed : BitVec 32) :
    (generate name seed).text.toList = stemOf runs ++ '-' :: suffix seed := by
  have hempty : (joined runs).isEmpty ↔ runs = [] := by
    rw [List.isEmpty_iff]
    refine ⟨fun hnil => by_contra fun hruns => ?_, fun hruns => by simp [hruns]⟩
    exact (isStem_joined hruns h.forall_mem).nonempty hnil
  simp only [generate, slug_eq_joined h, hempty, stemOf, String.toList_ofList]

theorem isStem_stemOf {runs : List (List Char)}
    (h : ∀ run ∈ runs, run ≠ [] ∧ ∀ c ∈ run, c.isAlphanum) : IsStem (stemOf runs) := by
  unfold stemOf
  split
  · exact isStem_word (by decide) (List.all_eq_true.1 (by decide))
  · next hruns => exact isStem_joined hruns h

/-- The stem is the one that is made from itself. -/
theorem text_generate_stemOf {runs : List (List Char)}
    (h : ∀ run ∈ runs, run ≠ [] ∧ ∀ c ∈ run, c.isAlphanum) (seed : BitVec 32) :
    (generate (String.ofList (stemOf runs)) seed).text.toList =
      stemOf runs ++ '-' :: suffix seed := by
  have hslug : slug (String.ofList (stemOf runs)) = stemOf runs := by
    unfold stemOf
    split
    · decide
    · exact slug_joined h
  have hempty : (stemOf runs).isEmpty = false := by
    simpa using (isStem_stemOf h).nonempty
  simp [generate, hslug, hempty]

theorem length_suffix (seed : BitVec 32) : (suffix seed).length = 8 := by
  simp [suffix]

theorem mem_suffix {seed : BitVec 32} {d : Char} (h : d ∈ suffix seed) :
    d ∈ "0123456789abcdef".toList := by
  have hdigit : ∀ n < 16, Nat.digitChar n ∈ "0123456789abcdef".toList := by decide
  obtain ⟨i, -, rfl⟩ := List.mem_map.1 h
  exact hdigit _ (Nat.mod_lt _ (by decide))

/-- A stem makes an identifier that a scenario may choose. -/
theorem accepted_of_isStem {stem : List Char} (h : IsStem stem) (seed : BitVec 32) {p : ProjectId}
    (text : p.text.toList = stem ++ '-' :: suffix seed) : p.Accepted := by
  have hpart : ∀ c, isSlugChar c ∨ c = '-' → isPart c := by
    rintro c (hc | rfl)
    · rw [isSlugChar] at hc
      simp [isPart, hc]
    · decide
  have hdigit : ∀ d ∈ "0123456789abcdef".toList, isPart d :=
    List.all_eq_true.1 (by decide)
  obtain ⟨c, rest, rfl⟩ := List.exists_cons_of_ne_nil h.nonempty
  have hstart : isStart c := by
    rcases h.chars c List.mem_cons_self with hc | rfl
    · exact isAlphanum_of_isSlugChar hc
    · exact absurd rfl h.head
  rw [accepted_iff, text, isValid, List.cons_append, List.head?_cons, Option.any_some, hstart,
    Bool.and_true, List.all_eq_true, ← List.cons_append]
  intro d hd
  rcases List.mem_append.1 hd with hd | hd
  · exact hpart d (h.chars d hd)
  · rcases List.mem_cons.1 hd with rfl | hd
    · decide
    · exact hdigit d (mem_suffix hd)

/-- An identifier that is generated is one that may be chosen. It consists of a stem, a hyphen and
eight hexadecimal digits. The stem is made up of the maximal runs of letters and digits of the name,
in lower case and joined by single hyphens, and is `scenario` if there are none. Made from the stem,
an identifier has the same stem again. -/
theorem generate_joins_runs (name : String) (seed : BitVec 32) :
    (generate name seed).Accepted ∧
    ∃ runs stem, Text.Runs Char.isAlphanum name.toList runs ∧
      (∀ other, Text.Runs Char.isAlphanum name.toList other → other = runs) ∧
      stem = (if runs = [] then "scenario".toList else
        List.intercalate ['-'] (runs.map (List.map Char.toLower))) ∧
      (generate name seed).text.toList = stem ++ '-' :: suffix seed ∧
      (suffix seed).length = 8 ∧ (∀ d ∈ suffix seed, d ∈ "0123456789abcdef".toList) ∧
      IsStem stem ∧ '_' ∉ stem ∧
      ∀ again, (generate (String.ofList stem) again).text.toList = stem ++ '-' :: suffix again := by
  obtain ⟨runs, h⟩ := Text.exists_runs Char.isAlphanum name.toList
  have hstem := isStem_stemOf h.forall_mem
  have hunderscore : '_' ∉ stemOf runs := fun hmem => by
    rcases hstem.chars _ hmem with hc | hc
    · exact (isSlugChar_ne hc).2 rfl
    · exact absurd hc (by decide)
  exact ⟨accepted_of_isStem hstem seed (text_generate h seed), runs, stemOf runs, h,
    fun _ => h.unique, rfl, text_generate h seed, length_suffix seed, fun _ => mem_suffix, hstem,
    hunderscore, text_generate_stemOf h.forall_mem⟩

example : (generate "  Köln_42!" 0).text = "k-ln-42-00000000" ∧
    (generate "東京" 255).text = "scenario-000000ff" := by decide +kernel

end ProjectId
end ComposeHarness
