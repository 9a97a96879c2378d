import ComposeHarness.Proofs.Json.Grammar

/-!
# Writing JSON

Every text can be quoted: a character that cannot stand between quotes is escaped. So a value made of
texts, truth values, nulls and objects of them can be written.
-/
namespace ComposeHarness.Json

/-! ### Texts -/

/-- A control character has a number of two hexadecimal digits. -/
theorem exists_hex_control {n : Nat} (h : n < 0x20) : ∃ ds, Hex ds n := by
  have hdigits : ∀ n < 0x20,
      ['0', '0', Nat.digitChar (n / 16), Nat.digitChar (n % 16)].all (Text.isDigitOf 16) ∧
        Text.numeral 16 ['0', '0', Nat.digitChar (n / 16), Nat.digitChar (n % 16)] = n := by
    decide
  exact ⟨_, rfl, (hdigits n h).1, (hdigits n h).2⟩

theorem exists_spelling_some (s : List Char) : ∃ cs, Spelling cs (some s) := by
  induction s with
  | nil => exact ⟨_, .nil⟩
  | cons c s ih =>
    obtain ⟨cs, hcs⟩ := ih
    by_cases hquote : c = '"'
    · subst hquote
      exact ⟨_, .escape (c := '"') rfl hcs⟩
    by_cases hescape : c = '\\'
    · subst hescape
      exact ⟨_, .escape (c := '\\') rfl hcs⟩
    by_cases hcontrol : 0x20 ≤ c.toNat
    · exact ⟨_, .plain hcontrol hquote hescape hcs⟩
    · obtain ⟨ds, hds⟩ := exists_hex_control (Nat.not_le.1 hcontrol)
      have hhigh : ¬IsHighHalf c.toNat := by
        unfold IsHighHalf
        omega
      have hlow : ¬IsLowHalf c.toNat := by
        unfold IsLowHalf
        omega
      have hspell := Spelling.codePoint hds hhigh hlow hcs
      rw [Option.map_some, Char.ofNat_toNat] at hspell
      exact ⟨_, hspell⟩

theorem exists_quotation_some (s : String) : ∃ token, Quotation token (some s) := by
  obtain ⟨cs, hcs⟩ := exists_spelling_some s.toList
  have hquote := Quotation.mk hcs
  rw [Option.map_some, String.ofList_toList] at hquote
  exact ⟨_, hquote⟩

/-! ### Values -/

/-- The value can be written as tokens. -/
def Writable (v : Value) : Prop := ∃ tokens, Phrase v tokens ∧ ∀ t ∈ tokens, t ≠ []

theorem writable_null : Writable .null := ⟨_, .null, by simp⟩

theorem writable_bool (b : Bool) : Writable (.bool b) := by
  cases b with
  | true => exact ⟨_, .isTrue, by simp⟩
  | false => exact ⟨_, .isFalse, by simp⟩

theorem writable_text (s : String) : Writable (.text (some s)) := by
  obtain ⟨token, htoken⟩ := exists_quotation_some s
  exact ⟨_, .text htoken, by simpa using htoken.ne_nil⟩

theorem exists_member_tokens {m : Text × Value} (h : m.1.isSome ∧ Writable m.2) :
    ∃ token ts, Quotation token m.1 ∧ Phrase m.2 ts ∧ ∀ t ∈ token :: [':'] :: ts, t ≠ [] := by
  obtain ⟨hname, ts, hts, hne⟩ := h
  obtain ⟨name, hname⟩ := Option.isSome_iff_exists.1 hname
  obtain ⟨token, htoken⟩ := exists_quotation_some name
  rw [← hname] at htoken
  exact ⟨token, ts, htoken, hts,
    List.forall_mem_cons.2 ⟨htoken.ne_nil, List.forall_mem_cons.2 ⟨List.cons_ne_nil _ _, hne⟩⟩⟩

theorem exists_members_tokens {m : Text × Value} {ms : List (Text × Value)}
    (h : ∀ m' ∈ m :: ms, m'.1.isSome ∧ Writable m'.2) :
    ∃ tokens, Members (m :: ms) tokens ∧ ∀ t ∈ tokens, t ≠ [] := by
  induction ms generalizing m with
  | nil =>
    obtain ⟨token, ts, htoken, hts, hne⟩ := exists_member_tokens (h m List.mem_cons_self)
    exact ⟨_, .last htoken hts, hne⟩
  | cons m' ms ih =>
    obtain ⟨hm, hrest⟩ := List.forall_mem_cons.1 h
    obtain ⟨token, ts, htoken, hts, hne⟩ := exists_member_tokens hm
    obtain ⟨us, hus, hne'⟩ := ih hrest
    refine ⟨_, .more htoken hts hus, ?_⟩
    rw [← List.cons_append, ← List.cons_append]
    exact List.forall_mem_append.2 ⟨hne, List.forall_mem_cons.2 ⟨List.cons_ne_nil _ _, hne'⟩⟩

theorem writable_object {ms : List (Text × Value)} (h : ∀ m ∈ ms, m.1.isSome ∧ Writable m.2) :
    Writable (.object ms) := by
  cases ms with
  | nil => exact ⟨_, .noMembers, by simp⟩
  | cons m ms =>
    obtain ⟨tokens, hmembers, hne⟩ := exists_members_tokens h
    exact ⟨_, .members hmembers, List.forall_mem_cons.2 ⟨List.cons_ne_nil _ _,
      List.forall_mem_append.2 ⟨hne, by simp⟩⟩⟩

theorem Writable.exists_spells {v : Value} (h : Writable v) : ∃ text, Spells v text := by
  obtain ⟨tokens, hphrase, hne⟩ := h
  exact ⟨String.ofList tokens.flatten, tokens, hphrase, by
    rw [String.toList_ofList]
    exact .flatten hne⟩

end ComposeHarness.Json
