import ComposeHarness.Naming

/-!
# The innermost brace groups of a text

An innermost group is an opening brace, a key without braces, and a closing brace. Every text
divides in exactly one way into its innermost groups and the characters outside of them.
-/
namespace ComposeHarness.NamingScheme

/-- A character outside of all innermost groups, or an innermost group. -/
inductive Piece where
  | plain (c : Char)
  | group (key : List Char)
  deriving Repr, DecidableEq

/-- The text of a piece. -/
def Piece.source : Piece → List Char
  | .plain c => [c]
  | .group key => '\x7b' :: (key ++ ['\x7d'])

theorem Piece.source_ne_nil (p : Piece) : p.source ≠ [] := by
  cases p <;> simp [Piece.source]

def NoBrace (key : List Char) : Prop := '\x7b' ∉ key ∧ '\x7d' ∉ key

/-- The pieces make up the text, and its innermost groups are the groups among them. -/
structure Divides (text : List Char) (pieces : List Piece) : Prop where
  source : pieces.flatMap Piece.source = text
  noBrace : ∀ key, .group key ∈ pieces → NoBrace key
  innermost : ∀ before key after, NoBrace key →
    text = before ++ '\x7b' :: (key ++ '\x7d' :: after) →
    ∃ front back, pieces = front ++ .group key :: back ∧ front.flatMap Piece.source = before

/-- The innermost group at the start of a text after its opening brace: the key, and the rest. -/
def keyOf? (rest : List Char) : Option (List Char × List Char) :=
  (cut '\x7d' rest).filter fun (key, _) => !key.contains '\x7b'

theorem keyOf?_eq_some_iff {rest key after : List Char} :
    keyOf? rest = some (key, after) ↔ rest = key ++ '\x7d' :: after ∧ NoBrace key := by
  simp only [keyOf?, Option.filter_eq_some_iff, cut_eq_some_iff, NoBrace, and_assoc]
  simp [and_comm]

theorem keyOf?_of_noBrace {key : List Char} (h : NoBrace key) (after : List Char) :
    keyOf? (key ++ '\x7d' :: after) = some (key, after) :=
  keyOf?_eq_some_iff.2 ⟨rfl, h⟩

/-- Divides a text from its start. -/
def divide : List Char → List Piece
  | [] => []
  | c :: rest =>
    if c = '\x7b' then
      match _h : keyOf? rest with
      | some (key, after) => .group key :: divide after
      | none => .plain c :: divide rest
    else .plain c :: divide rest
termination_by text => text.length
decreasing_by
  · have := (keyOf?_eq_some_iff.1 ‹_›).1
    simp [this]
    omega
  · simp
  · simp

theorem divide_group {key : List Char} (h : NoBrace key) (after : List Char) :
    divide ('\x7b' :: (key ++ '\x7d' :: after)) = .group key :: divide after := by
  rw [divide, if_pos rfl]
  split
  · next k a hk =>
    cases (keyOf?_of_noBrace h after).symm.trans hk
    rfl
  · next hk => cases (keyOf?_of_noBrace h after).symm.trans hk

theorem divide_open {rest : List Char} (h : keyOf? rest = none) :
    divide ('\x7b' :: rest) = .plain '\x7b' :: divide rest := by
  rw [divide, if_pos rfl]
  split
  · next hk => cases h.symm.trans hk
  · rfl

theorem divide_plain {c : Char} (h : c ≠ '\x7b') (rest : List Char) :
    divide (c :: rest) = .plain c :: divide rest := by
  rw [divide, if_neg h]

/-- An induction that follows the division of a text. -/
theorem divide_induction {motive : List Char → Prop} (text : List Char) (nil : motive [])
    (plain : ∀ c rest, c ≠ '\x7b' → motive rest → motive (c :: rest))
    (opened : ∀ rest, keyOf? rest = none → motive rest → motive ('\x7b' :: rest))
    (group : ∀ key after, NoBrace key → motive after →
      motive ('\x7b' :: (key ++ '\x7d' :: after))) : motive text := by
  induction text using divide.induct with
  | case1 => exact nil
  | case2 rest key after hk ih =>
    obtain ⟨rfl, hkey⟩ := keyOf?_eq_some_iff.1 hk
    exact group key after hkey ih
  | case3 rest hk ih => exact opened rest hk ih
  | case4 c rest hc ih => exact plain c rest hc ih

theorem flatMap_source_divide (text : List Char) :
    (divide text).flatMap Piece.source = text := by
  induction text using divide_induction with
  | nil => simp [divide]
  | plain c rest hc ih => simp [divide_plain hc, Piece.source, ih]
  | opened rest h ih => simp [divide_open h, Piece.source, ih]
  | group key after hkey ih => simp [divide_group hkey, Piece.source, ih]

theorem noBrace_of_mem_divide {text key : List Char} (h : .group key ∈ divide text) :
    NoBrace key := by
  induction text using divide_induction with
  | nil => simp [divide] at h
  | plain c rest hc ih => exact ih (by simpa [divide_plain hc] using h)
  | opened rest hn ih => exact ih (by simpa [divide_open hn] using h)
  | group other after hother ih =>
    rw [divide_group hother] at h
    rcases List.mem_cons.1 h with h | h
    · cases h
      exact hother
    · exact ih h

/-- A second group cannot start within a group. -/
theorem exists_of_append_eq {u v key w : List Char} (h : '\x7b' ∉ key)
    (heq : u ++ '\x7b' :: v = key ++ '\x7d' :: w) :
    ∃ u', u = key ++ '\x7d' :: u' ∧ w = u' ++ '\x7b' :: v := by
  induction key generalizing u with
  | nil =>
    cases u with
    | nil => simp at heq
    | cons c u =>
      simp only [List.cons_append, List.nil_append, List.cons.injEq] at heq
      exact ⟨u, by rw [heq.1]; rfl, heq.2.symm⟩
  | cons d key ih =>
    simp only [List.mem_cons, not_or] at h
    cases u with
    | nil => exact absurd (List.cons.inj heq).1 h.1
    | cons c u =>
      simp only [List.cons_append, List.cons.injEq] at heq
      obtain ⟨u', hu, hw⟩ := ih h.2 heq.2
      exact ⟨u', by rw [heq.1, hu]; rfl, hw⟩

theorem exists_group_divide (text : List Char) : ∀ before key after, NoBrace key →
    text = before ++ '\x7b' :: (key ++ '\x7d' :: after) →
    ∃ front back, divide text = front ++ .group key :: back ∧
      front.flatMap Piece.source = before := by
  induction text using divide_induction with
  | nil => simp
  | plain c rest hc ih =>
    intro before key after hkey h
    cases before with
    | nil => exact absurd (List.cons.inj h).1 hc
    | cons b before =>
      obtain ⟨rfl, hrest⟩ := List.cons.inj h
      obtain ⟨front, back, hd, hf⟩ := ih before key after hkey hrest
      exact ⟨.plain c :: front, back, by simp [divide_plain hc, hd], by simp [Piece.source, hf]⟩
  | opened rest hn ih =>
    intro before key after hkey h
    cases before with
    | nil =>
      rw [(List.cons.inj h).2, keyOf?_of_noBrace hkey] at hn
      cases hn
    | cons b before =>
      obtain ⟨rfl, hrest⟩ := List.cons.inj h
      obtain ⟨front, back, hd, hf⟩ := ih before key after hkey hrest
      exact ⟨.plain '\x7b' :: front, back, by simp [divide_open hn, hd], by simp [Piece.source, hf]⟩
  | group other rest hother ih =>
    intro before key after hkey h
    cases before with
    | nil =>
      have hrest := (List.cons.inj h).2
      have hk := keyOf?_of_noBrace hother rest
      rw [hrest, keyOf?_of_noBrace hkey] at hk
      cases hk
      exact ⟨[], divide rest, by simp [divide_group hother], rfl⟩
    | cons b before =>
      obtain ⟨rfl, hrest⟩ := List.cons.inj h
      obtain ⟨before, rfl, hsplit⟩ := exists_of_append_eq hother.1 hrest.symm
      obtain ⟨front, back, hd, hf⟩ := ih before key after hkey hsplit
      exact ⟨.group other :: front, back, by simp [divide_group hother, hd],
        by simp [Piece.source, hf]⟩

theorem divides_divide (text : List Char) : Divides text (divide text) :=
  ⟨flatMap_source_divide text, fun _ => noBrace_of_mem_divide, exists_group_divide text⟩

/-- A group at the start of a text is the first piece of every division. -/
theorem Divides.head_group {key after : List Char} {pieces : List Piece} (h : NoBrace key)
    (hd : Divides ('\x7b' :: (key ++ '\x7d' :: after)) pieces) :
    ∃ back, pieces = .group key :: back := by
  obtain ⟨front, back, rfl, hf⟩ := hd.innermost [] key after h rfl
  cases front with
  | nil => exact ⟨back, rfl⟩
  | cons p front => simp [p.source_ne_nil] at hf

/-- Without its first piece, a division divides the rest of the text. -/
theorem Divides.tail {text : List Char} {p : Piece} {pieces : List Piece}
    (h : Divides (p.source ++ text) (p :: pieces)) : Divides text pieces := by
  have hsource : pieces.flatMap Piece.source = text := by simpa using h.source
  refine ⟨hsource, fun key hk => h.noBrace key (List.mem_cons_of_mem p hk), ?_⟩
  intro before key after hkey htext
  obtain ⟨front, back, hp, hf⟩ := h.innermost (p.source ++ before) key after hkey (by simp [htext])
  cases front with
  | nil => simp [p.source_ne_nil] at hf
  | cons q front =>
    obtain ⟨rfl, hpieces⟩ := List.cons.inj hp
    exact ⟨front, back, hpieces, by simpa using hf⟩

/-- A text that starts with no innermost group starts with a plain character. -/
theorem Divides.head_plain {c : Char} {rest : List Char} {pieces : List Piece}
    (h : c ≠ '\x7b' ∨ keyOf? rest = none) (hd : Divides (c :: rest) pieces) :
    ∃ back, pieces = .plain c :: back := by
  cases pieces with
  | nil => simpa using hd.source
  | cons p back =>
    have hsource := hd.source
    cases p with
    | plain d =>
      obtain ⟨rfl, -⟩ := List.cons.inj (by simpa [Piece.source] using hsource)
      exact ⟨back, rfl⟩
    | group key =>
      have hkey := hd.noBrace key (by simp)
      simp only [List.flatMap_cons, Piece.source, List.cons_append, List.append_assoc,
        List.nil_append, List.cons.injEq] at hsource
      obtain ⟨rfl, rfl⟩ := hsource
      rw [keyOf?_of_noBrace hkey] at h
      simp at h

/-- There is no other division of a text. -/
theorem Divides.eq_divide {text : List Char} {pieces : List Piece} (h : Divides text pieces) :
    pieces = divide text := by
  induction text using divide_induction generalizing pieces with
  | nil =>
    cases pieces with
    | nil => simp [divide]
    | cons p pieces => simpa [p.source_ne_nil] using h.source
  | plain c rest hc ih =>
    obtain ⟨back, rfl⟩ := h.head_plain (.inl hc)
    rw [divide_plain hc, ih (h.tail (p := .plain c))]
  | opened rest hn ih =>
    obtain ⟨back, rfl⟩ := h.head_plain (.inr hn)
    rw [divide_open hn, ih (h.tail (p := .plain '\x7b'))]
  | group key after hkey ih =>
    obtain ⟨back, rfl⟩ := h.head_group hkey
    have htext : Divides (Piece.source (.group key) ++ after) (.group key :: back) := by
      simpa [Piece.source] using h
    rw [divide_group hkey, ih htext.tail]

end ComposeHarness.NamingScheme
