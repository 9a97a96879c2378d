import ComposeHarness.Proofs.Naming.Division
import ComposeHarness.Proofs.Naming.Placeholder
import ComposeHarness.Proofs.Sequence

/-!
# Expansion is one substitution

Expanding the placeholders of a text is one substitution in its innermost brace groups: a group that
stands for something is replaced by it, everything else is copied. The expansion fails exactly if a
group is malformed, with the failure of the first one. What is inserted is not read again, because
the pieces are those of the text before the expansion.
-/
namespace ComposeHarness.NamingScheme

variable {scheme : NamingScheme} {project : String}

/-! ### The recursion on the text -/

theorem expandChars_plain {c : Char} (h : c ≠ '\x7b') (rest : List Char) :
    expandChars scheme project (c :: rest) = (c :: ·) <$> expandChars scheme project rest := by
  rw [expandChars, if_pos (by simpa using h)]

theorem expandChars_append {front : List Char} (h : '\x7b' ∉ front) (rest : List Char) :
    expandChars scheme project (front ++ rest) =
      (front ++ ·) <$> expandChars scheme project rest := by
  induction front with
  | nil => simp
  | cons c front ih =>
    simp only [List.mem_cons, not_or] at h
    rw [List.cons_append, expandChars_plain (Ne.symm h.1), ih h.2, Functor.map_map]
    rfl

theorem expandChars_literal {text : List Char} (h : '\x7b' ∉ text) :
    expandChars scheme project text = .ok text := by
  rw [← List.append_nil text, expandChars_append h, expandChars]
  rfl

/-- Without a closing brace the rest of a text is copied. -/
theorem expandChars_unclosed {text : List Char} (h : '\x7d' ∉ text) :
    expandChars scheme project text = .ok text := by
  induction text with
  | nil => rw [expandChars]
  | cons c rest ih =>
    simp only [List.mem_cons, not_or] at h
    by_cases hc : c = '\x7b'
    · rw [expandChars, if_neg (by simpa using hc)]
      split
      · rfl
      · next hcut => cases hcut.symm.trans (cut_eq_none_iff.2 h.2)
    · rw [expandChars_plain hc, ih h.2]
      rfl

/-- A brace that opens no innermost group is copied. -/
theorem expandChars_open {rest : List Char} (h : keyOf? rest = none) :
    expandChars scheme project ('\x7b' :: rest) =
      ('\x7b' :: ·) <$> expandChars scheme project rest := by
  rw [expandChars, if_neg (by simp)]
  split
  · next hcut =>
    rw [expandChars_unclosed (cut_eq_none_iff.1 hcut)]
    rfl
  · next key after hcut =>
    have hkey : key.contains '\x7b' := by
      simpa [keyOf?, hcut, Option.filter] using h
    rw [if_pos hkey]

/-- What a piece becomes. -/
def expandPiece (scheme : NamingScheme) (project : String) : Piece → Except Failure (List Char)
  | .plain c => .ok [c]
  | .group key =>
    (placeholder scheme project key).map fun
      | some value => value.toList
      | none => Piece.source (.group key)

/-- A group is replaced by what it stands for. Literal ones are copied, and reading on behind their
opening brace finds no other group in them. -/
theorem expandChars_group {key : List Char} (h : NoBrace key) (after : List Char) :
    expandChars scheme project ('\x7b' :: (key ++ '\x7d' :: after)) =
      expandPiece scheme project (.group key) >>= fun text =>
        (text ++ ·) <$> expandChars scheme project after := by
  have hkey : ¬key.contains '\x7b' := by simpa using h.1
  rw [expandChars, if_neg (by simp)]
  split
  · next hcut => cases hcut.symm.trans (cut_of_not_mem h.2 after)
  · next k a hcut =>
    cases hcut.symm.trans (cut_of_not_mem h.2 after)
    rw [if_neg hkey, expandPiece]
    cases placeholder scheme project key with
    | error failure => rfl
    | ok value =>
      cases value with
      | some value => rfl
      | none =>
        have hrest : key ++ '\x7d' :: after = (key ++ ['\x7d']) ++ after := by simp
        have hopen : '\x7b' ∉ key ++ ['\x7d'] := by simp [h.1]
        simp only [hrest, expandChars_append hopen, Functor.map_map]
        rfl

/-! ### The substitution on the pieces -/

theorem flatten_mapM_cons {ε α β : Type} (f : α → Except ε (List β)) (x : α) (xs : List α) :
    List.flatten <$> (x :: xs).mapM f =
      f x >>= fun text => (text ++ ·) <$> (List.flatten <$> xs.mapM f) := by
  simp [List.mapM_cons]

/-- Expanding a text is expanding its pieces. -/
theorem expandChars_eq_mapM (text : List Char) :
    expandChars scheme project text =
      List.flatten <$> (divide text).mapM (expandPiece scheme project) := by
  induction text using divide_induction with
  | nil =>
    rw [expandChars, divide]
    rfl
  | plain c rest hc ih =>
    rw [expandChars_plain hc, divide_plain hc, flatten_mapM_cons, ih]
    rfl
  | opened rest hn ih =>
    rw [expandChars_open hn, divide_open hn, flatten_mapM_cons, ih]
    rfl
  | group key after hkey ih =>
    rw [expandChars_group hkey, divide_group hkey, flatten_mapM_cons, ih]

/-- What a piece may become: plain characters and literal groups are copied. -/
inductive Renders (scheme : NamingScheme) (project : String) : Piece → List Char → Prop where
  | plain (c : Char) : Renders scheme project (.plain c) [c]
  | value {key : List Char} {value : String} (h : StandsFor scheme project key value) :
      Renders scheme project (.group key) value.toList
  | literal {key : List Char} (unknown : ∀ value, ¬StandsFor scheme project key value)
      (wellFormed : ∀ failure, ¬Malformed key failure) :
      Renders scheme project (.group key) (Piece.source (.group key))

theorem expandPiece_eq_ok_iff {p : Piece} {text : List Char} :
    expandPiece scheme project p = .ok text ↔ Renders scheme project p text := by
  constructor
  · intro h
    cases p with
    | plain c =>
      cases h
      exact .plain c
    | group key =>
      rw [expandPiece] at h
      cases hp : placeholder scheme project key with
      | error failure =>
        rw [hp] at h
        cases h
      | ok value =>
        rw [hp] at h
        cases value with
        | some value =>
          cases h
          exact .value (placeholder_eq_some_iff.1 hp)
        | none =>
          cases h
          refine .literal (fun value hv => ?_) (fun failure hf => ?_)
          · cases hp.symm.trans (placeholder_of_standsFor hv)
          · cases hp.symm.trans (placeholder_of_malformed hf)
  · intro h
    cases h with
    | plain c => rfl
    | value h =>
      rw [expandPiece, placeholder_of_standsFor h]
      rfl
    | @literal key unknown wellFormed =>
      obtain ⟨value, hv⟩ | ⟨failure, hf⟩ | hn := placeholder_cases scheme project key
      · exact absurd hv (unknown value)
      · exact absurd hf (wellFormed failure)
      · rw [expandPiece, hn]
        rfl

theorem expandPiece_eq_error_iff {p : Piece} {failure : Failure} :
    expandPiece scheme project p = .error failure ↔
      ∃ key, p = .group key ∧ Malformed key failure := by
  cases p with
  | plain c => simp [expandPiece]
  | group key =>
    have h : expandPiece scheme project (.group key) = .error failure ↔
        placeholder scheme project key = .error failure := by
      rw [expandPiece]
      cases placeholder scheme project key <;> simp [Except.map]
    simp [h, placeholder_eq_error_iff]

/-! ### The expansion of a text -/

theorem expand_eq_ok_iff {input out : String} :
    expand scheme input project = .ok out ↔
      ∃ texts, List.Forall₂ (Renders scheme project) (divide input.toList) texts ∧
        out.toList = texts.flatten := by
  simp only [expand, expandChars_eq_mapM, Functor.map_map, Sequence.map_eq_ok_iff,
    Sequence.mapM_eq_ok_iff, expandPiece_eq_ok_iff]
  refine exists_congr fun texts => and_congr_right fun _ => ?_
  exact ⟨fun h => by simp [← h], fun h => by simp [← h]⟩

/-- The failure is that of the first malformed group. -/
theorem expand_eq_error_iff {input : String} {failure : Failure} :
    expand scheme input project = .error failure ↔
      ∃ before key after, divide input.toList = before ++ .group key :: after ∧
        (∀ k f, .group k ∈ before → ¬Malformed k f) ∧ Malformed key failure := by
  simp only [expand, expandChars_eq_mapM, Functor.map_map, Sequence.map_eq_error_iff,
    Sequence.mapM_eq_error_iff, expandPiece_eq_error_iff]
  constructor
  · rintro ⟨before, _, after, hd, hb, key, rfl, hm⟩
    refine ⟨before, key, after, hd, fun k f hk hf => ?_, hm⟩
    obtain ⟨text, htext⟩ := hb _ hk
    cases htext.symm.trans (expandPiece_eq_error_iff.2 ⟨k, rfl, hf⟩)
  · rintro ⟨before, key, after, hd, hb, hm⟩
    refine ⟨before, _, after, hd, fun p hp => ?_, key, rfl, hm⟩
    cases hpiece : expandPiece scheme project p with
    | ok text => exact ⟨text, rfl⟩
    | error f =>
      obtain ⟨k, rfl, hf⟩ := expandPiece_eq_error_iff.1 hpiece
      exact absurd hf (hb k f hp)

/-- Whether a text can be expanded depends on the text alone. -/
theorem exists_expand_eq_ok_iff {input : String} :
    (∃ out, expand scheme input project = .ok out) ↔
      ∀ key failure, .group key ∈ divide input.toList → ¬Malformed key failure := by
  have hpieces : (∃ out, expand scheme input project = .ok out) ↔
      ∀ p ∈ divide input.toList, ∃ text, expandPiece scheme project p = .ok text := by
    rw [← Sequence.exists_mapM_eq_ok_iff]
    simp [expand, expandChars_eq_mapM, Sequence.map_eq_ok_iff]
  rw [hpieces]
  constructor
  · intro h key failure hkey hm
    obtain ⟨text, htext⟩ := h _ hkey
    cases htext.symm.trans (expandPiece_eq_error_iff.2 ⟨key, rfl, hm⟩)
  · intro h p hp
    cases hpiece : expandPiece scheme project p with
    | ok text => exact ⟨text, rfl⟩
    | error failure =>
      obtain ⟨key, rfl, hm⟩ := expandPiece_eq_error_iff.1 hpiece
      exact absurd hm (h key failure hp)

end ComposeHarness.NamingScheme
