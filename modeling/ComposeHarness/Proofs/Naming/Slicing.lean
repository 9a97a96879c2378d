import ComposeHarness.Proofs.Naming.Substitution
import ComposeHarness.Proofs.Text.Offset

/-!
# Expansion by slices of the text

The expansion can be written as a loop that looks for braces and cuts the text at their byte
offsets. A cut outside of the text or within a character would be a crash. There is none, and the
loop writes what the expansion gives.
-/
namespace ComposeHarness.NamingScheme

open Text (findByte? takeBytes? dropBytes?)

variable {scheme : NamingScheme} {project : String}

/-- The value of the text behind an opening brace, or none if that brace is literal. -/
def value? (scheme : NamingScheme) (project : String) (key : List Char) :
    Except Failure (Option String) :=
  if key.contains '\x7b' then .ok none else placeholder scheme project key

theorem utf8Size_open : Char.utf8Size '\x7b' = 1 := by decide

theorem utf8Size_close : Char.utf8Size '\x7d' = 1 := by decide

/-- What a round of the loop writes, and what it leaves to read unless it is the last one. -/
abbrev Round : Type := Except Failure (List Char × Option (List Char))

/-- One round of the loop, or none if it cuts the text where it cannot be cut. -/
def slice (scheme : NamingScheme) (project : String) (rest : List Char) : Option Round :=
  match findByte? '\x7b' rest with
  | none => some (.ok (rest, none))
  | some start => do
    let before ← takeBytes? start rest
    let after ← dropBytes? (start + 1) rest
    match findByte? '\x7d' after with
    | none =>
      let tail ← dropBytes? start rest
      return .ok (before ++ tail, none)
    | some close =>
      let key ← takeBytes? close after
      match value? scheme project key with
      | .error failure => return .error failure
      | .ok none => return .ok (before ++ ['\x7b'], some after)
      | .ok (some value) =>
        let behind ← dropBytes? (close + 1) after
        return .ok (before ++ value.toList, some behind)

/-- What a round leaves behind a text that ends with a closing brace. -/
def afterKey (before key behind : List Char) : Option String → List Char × Option (List Char)
  | none => (before ++ ['\x7b'], some (key ++ '\x7d' :: behind))
  | some value => (before ++ value.toList, some behind)

theorem slice_literal {text : List Char} (h : '\x7b' ∉ text) :
    slice scheme project text = some (.ok (text, none)) := by
  rw [slice, Text.findByte?_of_not_mem h]

theorem slice_unclosed {before after : List Char} (h : '\x7b' ∉ before) (hc : '\x7d' ∉ after) :
    slice scheme project (before ++ '\x7b' :: after) =
      some (.ok (before ++ '\x7b' :: after, none)) := by
  have hafter := Text.dropBytes?_succ utf8Size_open before after
  rw [slice, Text.findByte?_append h]
  simp [Text.takeBytes?_byteLength, Text.dropBytes?_byteLength, hafter,
    Text.findByte?_of_not_mem hc]

theorem slice_key {before key : List Char} (h : '\x7b' ∉ before) (hc : '\x7d' ∉ key)
    (behind : List Char) :
    slice scheme project (before ++ '\x7b' :: (key ++ '\x7d' :: behind)) =
      some ((value? scheme project key).map (afterKey before key behind)) := by
  have hafter := Text.dropBytes?_succ utf8Size_open before (key ++ '\x7d' :: behind)
  have hbehind := Text.dropBytes?_succ utf8Size_close key behind
  rw [slice, Text.findByte?_append h]
  simp only [Text.takeBytes?_byteLength, hafter, Text.findByte?_append hc, bind, Option.bind_some]
  cases value? scheme project key with
  | error failure => rfl
  | ok value =>
    cases value with
    | none => rfl
    | some value =>
      simp only [hbehind, Option.bind_some]
      rfl

/-- The last round copies what is left, any other one reaches a closing brace. -/
theorem slice_cases (scheme : NamingScheme) (project : String) (rest : List Char) :
    slice scheme project rest = some (.ok (rest, none)) ∧
        expandChars scheme project rest = .ok rest ∨
      ∃ before key behind, '\x7b' ∉ before ∧ '\x7d' ∉ key ∧
        rest = before ++ '\x7b' :: (key ++ '\x7d' :: behind) := by
  cases hopen : cut '\x7b' rest with
  | none =>
    have h := cut_eq_none_iff.1 hopen
    exact .inl ⟨slice_literal h, expandChars_literal h⟩
  | some parts =>
    obtain ⟨before, after⟩ := parts
    obtain ⟨rfl, h⟩ := cut_eq_some_iff.1 hopen
    cases hclose : cut '\x7d' after with
    | none =>
      have hc := cut_eq_none_iff.1 hclose
      refine .inl ⟨slice_unclosed h hc, ?_⟩
      rw [expandChars_append h, expandChars_unclosed (by simpa using hc)]
      rfl
    | some parts =>
      obtain ⟨key, behind⟩ := parts
      obtain ⟨rfl, hc⟩ := cut_eq_some_iff.1 hclose
      exact .inr ⟨before, key, behind, h, hc, rfl⟩

/-- Each round leaves less to read. -/
theorem length_lt_of_slice {rest text later : List Char}
    (h : slice scheme project rest = some (.ok (text, some later))) :
    later.length < rest.length := by
  obtain ⟨hlast, -⟩ | ⟨before, key, behind, hb, hk, rfl⟩ := slice_cases scheme project rest
  · cases hlast.symm.trans h
  · rw [slice_key hb hk] at h
    cases hv : value? scheme project key with
    | error failure => simp [hv, Except.map] at h
    | ok value =>
      simp only [hv, Except.map, Option.some.injEq, Except.ok.injEq] at h
      cases value with
      | none =>
        cases h
        simp
        omega
      | some value =>
        cases h
        simp
        omega

/-- The loop over the rounds, with the text written so far. -/
def expandSlices (scheme : NamingScheme) (project : String) (out rest : List Char) :
    Option (Except Failure (List Char)) :=
  match _h : slice scheme project rest with
  | none => none
  | some (.error failure) => some (.error failure)
  | some (.ok (text, none)) => some (.ok (out ++ text))
  | some (.ok (text, some later)) => expandSlices scheme project (out ++ text) later
termination_by rest.length
decreasing_by exact length_lt_of_slice _h

theorem expandChars_key {key : List Char} (hc : '\x7d' ∉ key) (behind : List Char) :
    expandChars scheme project ('\x7b' :: (key ++ '\x7d' :: behind)) =
      value? scheme project key >>= fun
        | none => ('\x7b' :: ·) <$> expandChars scheme project (key ++ '\x7d' :: behind)
        | some value => (value.toList ++ ·) <$> expandChars scheme project behind := by
  rw [expandChars, if_neg (by simp)]
  split
  · next hcut => cases hcut.symm.trans (cut_of_not_mem hc behind)
  · next k a hcut =>
    cases hcut.symm.trans (cut_of_not_mem hc behind)
    rw [value?]
    split
    · rfl
    · cases placeholder scheme project key with
      | error failure => rfl
      | ok value => cases value <;> rfl

/-- The expansion of a text from what a round has written and left. -/
def resume (scheme : NamingScheme) (project : String) : Round → Except Failure (List Char)
  | .error failure => .error failure
  | .ok (text, none) => .ok text
  | .ok (text, some later) => (text ++ ·) <$> expandChars scheme project later

/-- A round cuts the text only where it can be cut, and keeps the expansion of the whole. -/
theorem exists_slice (scheme : NamingScheme) (project : String) (rest : List Char) :
    ∃ round, slice scheme project rest = some round ∧
      resume scheme project round = expandChars scheme project rest := by
  obtain ⟨hlast, hall⟩ | ⟨before, key, behind, hb, hk, rfl⟩ := slice_cases scheme project rest
  · exact ⟨_, hlast, hall.symm⟩
  · refine ⟨_, slice_key hb hk behind, ?_⟩
    rw [expandChars_append hb, expandChars_key hk]
    cases value? scheme project key with
    | error failure => rfl
    | ok value =>
      cases value <;>
        simp [Except.map, afterKey, resume, bind, Except.bind, Functor.map_map]

theorem expandChars_of_slice {rest : List Char} {round : Round}
    (h : slice scheme project rest = some round) :
    expandChars scheme project rest = resume scheme project round := by
  obtain ⟨other, hslice, hresume⟩ := exists_slice scheme project rest
  cases h.symm.trans hslice
  exact hresume.symm

/-- The loop makes all of its cuts, and adds the expansion to what is written. -/
theorem expandSlices_eq (out rest : List Char) :
    expandSlices scheme project out rest =
      some ((out ++ ·) <$> expandChars scheme project rest) := by
  fun_induction expandSlices scheme project out rest with
  | case1 out rest h =>
    obtain ⟨round, hslice, -⟩ := exists_slice scheme project rest
    cases h.symm.trans hslice
  | case2 out rest failure h =>
    rw [expandChars_of_slice h]
    rfl
  | case3 out rest text h =>
    rw [expandChars_of_slice h]
    rfl
  | case4 out rest text later h ih =>
    rw [expandChars_of_slice h, ih, resume, Functor.map_map]
    simp

/-- Expanding a text is one substitution in its innermost groups, and the loop over its slices does
just that. The division of a text into pieces is the only one there is. -/
theorem expand_substitutes_innermost_groups (scheme : NamingScheme) (input project : String) :
    ∃ pieces, Divides input.toList pieces ∧
      (∀ other, Divides input.toList other → other = pieces) ∧
      (∀ out, expand scheme input project = .ok out ↔
        ∃ texts, List.Forall₂ (Renders scheme project) pieces texts ∧
          out.toList = texts.flatten) ∧
      (∀ failure, expand scheme input project = .error failure ↔
        ∃ before key after, pieces = before ++ .group key :: after ∧
          (∀ k f, .group k ∈ before → ¬Malformed k f) ∧ Malformed key failure) ∧
      expandSlices scheme project [] input.toList =
        some (String.toList <$> expand scheme input project) := by
  refine ⟨divide input.toList, divides_divide _, fun _ h => h.eq_divide,
    fun _ => expand_eq_ok_iff, fun _ => expand_eq_error_iff, ?_⟩
  rw [expandSlices_eq, expand, Functor.map_map]
  simp

end ComposeHarness.NamingScheme
