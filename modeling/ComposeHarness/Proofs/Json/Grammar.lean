import ComposeHarness.Proofs.Json.Tokens

/-!
# The grammar of JSON

A document is a value written as tokens, with any blanks before, between and after them. Reading
accepts exactly the documents and gives the value that is written, so a value can be laid out in any
way without another being read.
-/
namespace ComposeHarness.Json

abbrev Token := List Char

mutual

/-- The tokens that a value is written as. -/
inductive Phrase : Value → List Token → Prop where
  | null : Phrase .null [['n', 'u', 'l', 'l']]
  | isTrue : Phrase (.bool true) [['t', 'r', 'u', 'e']]
  | isFalse : Phrase (.bool false) [['f', 'a', 'l', 's', 'e']]
  | number {token : Token} {n : Number} (h : Numeral token) (hn : number token = .ok (n, [])) :
      Phrase (.number n) [token]
  | text {token : Token} {s : Text} (h : Quotation token s) : Phrase (.text s) [token]
  | noItems : Phrase (.array []) [['['], [']']]
  | items {vs : List Value} {ts : List Token} (h : Items vs ts) :
      Phrase (.array vs) (['['] :: (ts ++ [[']']]))
  | noMembers : Phrase (.object []) [['\x7b'], ['\x7d']]
  | members {ms : List (Text × Value)} {ts : List Token} (h : Members ms ts) :
      Phrase (.object ms) (['\x7b'] :: (ts ++ [['\x7d']]))

/-- The tokens of one or more values with commas between them. -/
inductive Items : List Value → List Token → Prop where
  | last {v : Value} {ts : List Token} (h : Phrase v ts) : Items [v] ts
  | more {v : Value} {vs : List Value} {ts us : List Token} (h : Phrase v ts) (rest : Items vs us) :
      Items (v :: vs) (ts ++ [','] :: us)

/-- The tokens of one or more members with commas between them. -/
inductive Members : List (Text × Value) → List Token → Prop where
  | last {token : Token} {key : Text} {v : Value} {ts : List Token} (hkey : Quotation token key)
      (h : Phrase v ts) : Members [(key, v)] (token :: [':'] :: ts)
  | more {token : Token} {key : Text} {v : Value} {ms : List (Text × Value)} {ts us : List Token}
      (hkey : Quotation token key) (h : Phrase v ts) (rest : Members ms us) :
      Members ((key, v) :: ms) (token :: [':'] :: (ts ++ [','] :: us))

end

/-- The text is made of the tokens with blanks before, between and after them. -/
inductive Laid : List Token → List Char → Prop where
  | nil {blanks : List Char} (h : ∀ c ∈ blanks, isBlank c) : Laid [] blanks
  | cons {blanks cs : List Char} {token : Token} {tokens : List Token}
      (h : ∀ c ∈ blanks, isBlank c) (hne : token ≠ []) (rest : Laid tokens cs) :
      Laid (token :: tokens) (blanks ++ (token ++ cs))

/-- The text is one way of writing the value. -/
def Spells (v : Value) (source : String) : Prop :=
  ∃ tokens, Phrase v tokens ∧ Laid tokens source.toList

/-! ### Blanks -/

theorem Laid.token {tokens : List Token} {cs : List Char} (token : Token) (h : Laid tokens cs)
    (hne : token ≠ [] := by simp) : Laid (token :: tokens) (token ++ cs) :=
  .cons (List.forall_mem_nil _) hne h

theorem Laid.append {us : List Token} {cs : List Char} (tokens : List Token) (h : Laid us cs)
    (hne : ∀ t ∈ tokens, t ≠ []) : Laid (tokens ++ us) (tokens.flatten ++ cs) := by
  induction tokens with
  | nil => exact h
  | cons token tokens ih =>
    obtain ⟨htoken, hrest⟩ := List.forall_mem_cons.1 hne
    rw [List.flatten_cons, List.append_assoc]
    exact (ih hrest).token token htoken

theorem Laid.flatten {tokens : List Token} (hne : ∀ t ∈ tokens, t ≠ []) :
    Laid tokens tokens.flatten := by
  simpa using Laid.append tokens (.nil (List.forall_mem_nil _)) hne

theorem Laid.length_le {tokens : List Token} {cs : List Char} (h : Laid tokens cs) :
    tokens.length ≤ cs.length := by
  induction h with
  | nil => exact Nat.zero_le _
  | cons _ hne _ ih =>
    have := List.length_pos_iff.2 hne
    simp only [List.length_cons, List.length_append]
    omega

theorem Laid.of_skipBlank {tokens : List Token} {cs : List Char} (h : Laid tokens (skipBlank cs)) :
    Laid tokens cs := by
  have hfront : ∀ c ∈ cs.takeWhile isBlank, isBlank c := List.all_eq_true.1 List.all_takeWhile
  rw [← List.takeWhile_append_dropWhile (p := isBlank) (l := cs)]
  change Laid tokens (cs.takeWhile isBlank ++ skipBlank cs)
  generalize skipBlank cs = more at h
  cases h with
  | nil hblank => exact .nil (List.forall_mem_append.2 ⟨hfront, hblank⟩)
  | cons hblank hne rest =>
    rw [← List.append_assoc]
    exact .cons (List.forall_mem_append.2 ⟨hfront, hblank⟩) hne rest

/-- Behind its blanks the text starts with the first token. -/
theorem Laid.exists_skipBlank {c : Char} {token : Token} {tokens : List Token} {cs : List Char}
    (h : Laid ((c :: token) :: tokens) cs) (hc : isBlank c = false) :
    ∃ rest, skipBlank cs = c :: (token ++ rest) ∧ Laid tokens rest := by
  cases h with
  | cons hblank _ rest =>
    refine ⟨_, ?_, rest⟩
    rw [skipBlank, List.dropWhile_append_of_pos hblank, List.cons_append,
      List.dropWhile_cons_of_neg (by simp [hc])]

theorem Laid.skipBlank_eq_nil {cs : List Char} (h : Laid [] cs) : skipBlank cs = [] := by
  cases h with
  | nil hblank =>
    rw [skipBlank, ← List.append_nil cs, List.dropWhile_append_of_pos hblank, List.dropWhile_nil]

/-! ### Whatever is read is written as tokens -/

/-- A numeral starts with its sign or with a digit. -/
theorem Numeral.exists_cons {token : Token} (h : Numeral token) :
    ∃ c more, token = c :: more ∧ (c == '-' || c.isDigit) = true := by
  cases h with
  | mk hminus hwhole =>
    cases hminus with
    | some => exact ⟨_, _, rfl, rfl⟩
    | none =>
      obtain ⟨d, ds, rfl⟩ := List.exists_cons_of_ne_nil hwhole.1
      exact ⟨d, _, rfl, by simp [hwhole.2 d]⟩

theorem Numeral.ne_nil {token : Token} (h : Numeral token) : token ≠ [] := by
  obtain ⟨c, more, rfl, -⟩ := h.exists_cons
  exact List.cons_ne_nil c more

theorem Quotation.ne_nil {token : Token} {s : Text} (h : Quotation token s) : token ≠ [] := by
  cases h
  exact List.cons_ne_nil _ _

theorem word_eq_ok_iff {letters cs rest : List Char} :
    word letters cs = .ok rest ↔ cs = letters ++ rest := by
  induction letters generalizing cs with
  | nil => simp [word]
  | cons a letters ih =>
    cases cs with
    | nil => simp [word]
    | cons c cs =>
      by_cases hac : a = c
      · simp [word, hac, ih]
      · simp [word, hac, Ne.symm hac]

mutual

/-- A value that is read was written as tokens at the front of the text. -/
theorem exists_phrase (fuel : Nat) {cs rest : List Char} {v : Value}
    (h : value fuel cs = .ok (v, rest)) :
    ∃ v' ts, Phrase v' ts ∧ ∀ us, Laid us rest → Laid (ts ++ us) cs := by
  cases fuel with
  | zero => simp [value] at h
  | succ fuel =>
    unfold value at h
    split at h
    · cases h
    · obtain ⟨r, hword, heq⟩ := Sequence.map_eq_ok_iff.1 h
      cases heq
      obtain rfl := word_eq_ok_iff.1 hword
      exact ⟨_, _, .null, fun us hus => hus.token _⟩
    · obtain ⟨r, hword, heq⟩ := Sequence.map_eq_ok_iff.1 h
      cases heq
      obtain rfl := word_eq_ok_iff.1 hword
      exact ⟨_, _, .isTrue, fun us hus => hus.token _⟩
    · obtain ⟨r, hword, heq⟩ := Sequence.map_eq_ok_iff.1 h
      cases heq
      obtain rfl := word_eq_ok_iff.1 hword
      exact ⟨_, _, .isFalse, fun us hus => hus.token _⟩
    · obtain ⟨⟨s, r⟩, htext, heq⟩ := Sequence.map_eq_ok_iff.1 h
      cases heq
      obtain ⟨token, htoken, hcs⟩ := exists_quotation htext
      exact ⟨_, _, .text htoken, fun us hus => hcs ▸ hus.token token htoken.ne_nil⟩
    · dsimp only at h
      split at h
      · next after hclose =>
        cases h
        refine ⟨_, _, .noItems, fun us hus => .token ['['] (.of_skipBlank ?_)⟩
        rw [hclose]
        exact hus.token [']']
      · obtain ⟨⟨vs, r⟩, hitems, heq⟩ := Sequence.map_eq_ok_iff.1 h
        cases heq
        obtain ⟨vs', ts, hts, hlaid⟩ := exists_items fuel hitems
        refine ⟨_, _, .items hts, fun us hus => ?_⟩
        simpa using Laid.token ['['] (hlaid us hus).of_skipBlank
    · dsimp only at h
      split at h
      · next after hclose =>
        cases h
        refine ⟨_, _, .noMembers, fun us hus => .token ['\x7b'] (.of_skipBlank ?_)⟩
        rw [hclose]
        exact hus.token ['\x7d']
      · obtain ⟨⟨ms, r⟩, hmembers, heq⟩ := Sequence.map_eq_ok_iff.1 h
        cases heq
        obtain ⟨ms', ts, hts, hlaid⟩ := exists_members fuel hmembers
        refine ⟨_, _, .members hts, fun us hus => ?_⟩
        simpa using Laid.token ['\x7b'] (hlaid us hus).of_skipBlank
    · split at h
      · obtain ⟨⟨n, r⟩, hnumber, heq⟩ := Sequence.map_eq_ok_iff.1 h
        cases heq
        obtain ⟨token, htoken, hcs⟩ := exists_numeral hnumber
        obtain ⟨n', hn'⟩ := number_append htoken
        have hread : number token = .ok (n', []) := by simpa using hn' [] nofun
        exact ⟨_, _, .number htoken hread, fun us hus => hcs ▸ hus.token token htoken.ne_nil⟩
      · cases h

theorem exists_items (fuel : Nat) {cs rest : List Char} {vs : List Value}
    (h : items fuel cs = .ok (vs, rest)) :
    ∃ vs' ts, Items vs' ts ∧ ∀ us, Laid us rest → Laid (ts ++ [']'] :: us) cs := by
  cases fuel with
  | zero => simp [items] at h
  | succ fuel =>
    unfold items at h
    split at h
    · cases h
    · next v left hvalue =>
      obtain ⟨v', ts, hts, hlaid⟩ := exists_phrase fuel hvalue
      split at h
      · next more hcomma =>
        obtain ⟨⟨vs', r⟩, hitems, heq⟩ := Sequence.map_eq_ok_iff.1 h
        cases heq
        obtain ⟨vs', ts', hts', hlaid'⟩ := exists_items fuel hitems
        refine ⟨_, _, .more hts hts', fun us hus => ?_⟩
        rw [List.append_assoc, List.cons_append]
        refine hlaid _ (.of_skipBlank ?_)
        rw [hcomma]
        exact .token [','] (hlaid' us hus).of_skipBlank
      · next after hclose =>
        cases h
        refine ⟨_, _, .last hts, fun us hus => hlaid _ (.of_skipBlank ?_)⟩
        rw [hclose]
        exact hus.token [']']
      · cases h

theorem exists_members (fuel : Nat) {cs rest : List Char} {ms : List (Text × Value)}
    (h : members fuel cs = .ok (ms, rest)) :
    ∃ ms' ts, Members ms' ts ∧ ∀ us, Laid us rest → Laid (ts ++ ['\x7d'] :: us) cs := by
  cases fuel with
  | zero => simp [members] at h
  | succ fuel =>
    unfold members at h
    split at h
    · next quoted =>
      split at h
      · cases h
      · next key afterKey hkey =>
        obtain ⟨token, htoken, hcs⟩ := exists_quotation hkey
        split at h
        · next afterColon hcolon =>
          split at h
          · cases h
          · next v left hvalue =>
            obtain ⟨v', ts, hts, hlaid⟩ := exists_phrase fuel hvalue
            -- the member stands before whatever tokens follow it
            have hmember : ∀ us, Laid us left →
                Laid (token :: [':'] :: (ts ++ us)) ('"' :: quoted) := by
              intro us hus
              rw [hcs]
              refine .token token (.of_skipBlank ?_) htoken.ne_nil
              rw [hcolon]
              exact .token [':'] (hlaid us hus).of_skipBlank
            split at h
            · next more hcomma =>
              obtain ⟨⟨ms', r⟩, hmembers, heq⟩ := Sequence.map_eq_ok_iff.1 h
              cases heq
              obtain ⟨ms', ts', hts', hlaid'⟩ := exists_members fuel hmembers
              refine ⟨_, _, .more htoken hts hts', fun us hus => ?_⟩
              have := hmember ([','] :: (ts' ++ ['\x7d'] :: us)) (.of_skipBlank (by
                rw [hcomma]
                exact .token [','] (hlaid' us hus).of_skipBlank))
              simpa using this
            · next after hclose =>
              cases h
              refine ⟨_, _, .last htoken hts, fun us hus => ?_⟩
              have := hmember (['\x7d'] :: us) (.of_skipBlank (by
                rw [hclose]
                exact hus.token ['\x7d']))
              simpa using this
            · cases h
        · cases h
    · cases h

end

/-! ### Whatever is written as tokens is read -/

/-- No token that goes on with a value follows. -/
def Follows (us : List Token) : Prop := ∀ u ∈ us.head?, u = [','] ∨ u = [']'] ∨ u = ['\x7d']

theorem EndsNumber.of_laid {us : List Token} {cs : List Char} (h : Laid us cs) (hus : Follows us) :
    EndsNumber cs := by
  have hblankEnds : ∀ c, isBlank c → c.isDigit = false ∧ c ≠ '.' ∧ c ≠ 'e' ∧ c ≠ 'E' := by
    intro c hc
    simp only [isBlank, Bool.or_eq_true, beq_iff_eq] at hc
    rcases hc with ((rfl | rfl) | rfl) | rfl <;> decide
  cases h with
  | nil hblank =>
    cases cs with
    | nil => exact nofun
    | cons c cs => exact fun d hd => hblankEnds d (hblank d (by cases hd; simp))
  | @cons blanks cs token us hblank =>
    cases blanks with
    | nil =>
      intro d hd
      rcases hus token rfl with rfl | rfl | rfl <;> cases hd <;> decide
    | cons c blanks => exact fun d hd => hblankEnds d (hblank d (by cases hd; simp))

theorem not_isBlank_of_numeral {c : Char} (h : (c == '-' || c.isDigit) = true) :
    isBlank c = false := by
  rw [Bool.eq_false_iff]
  intro hc
  simp only [isBlank, Bool.or_eq_true, beq_iff_eq] at hc
  rcases hc with ((rfl | rfl) | rfl) | rfl <;> revert h <;> decide

theorem value_numeral {c : Char} {cs : List Char} (h : (c == '-' || c.isDigit) = true)
    (fuel : Nat) :
    value (fuel + 1) (c :: cs) = (number (c :: cs)).map fun (n, r) => (.number n, r) := by
  have hne : ∀ d : Char, (d == '-' || d.isDigit) = false → c ≠ d := by
    rintro d hd rfl
    simp [hd] at h
  rw [value]
  · rw [if_pos h]
  all_goals exact hne _ (by decide)

theorem value_null (fuel : Nat) (cs : List Char) :
    value (fuel + 1) ('n' :: 'u' :: 'l' :: 'l' :: cs) = .ok (.null, cs) := by
  have hword : word "ull".toList ('u' :: 'l' :: 'l' :: cs) = .ok cs := word_eq_ok_iff.2 rfl
  exact congrArg (Except.map _) hword

theorem value_true (fuel : Nat) (cs : List Char) :
    value (fuel + 1) ('t' :: 'r' :: 'u' :: 'e' :: cs) = .ok (.bool true, cs) := by
  have hword : word "rue".toList ('r' :: 'u' :: 'e' :: cs) = .ok cs := word_eq_ok_iff.2 rfl
  exact congrArg (Except.map _) hword

theorem value_false (fuel : Nat) (cs : List Char) :
    value (fuel + 1) ('f' :: 'a' :: 'l' :: 's' :: 'e' :: cs) = .ok (.bool false, cs) := by
  have hword : word "alse".toList ('a' :: 'l' :: 's' :: 'e' :: cs) = .ok cs := word_eq_ok_iff.2 rfl
  exact congrArg (Except.map _) hword

theorem value_text (fuel : Nat) (cs : List Char) :
    value (fuel + 1) ('"' :: cs) = (text cs).map fun (s, r) => (.text s, r) := rfl

theorem value_array (fuel : Nat) (cs : List Char) :
    value (fuel + 1) ('[' :: cs) =
      match skipBlank cs with
      | ']' :: after => .ok (.array [], after)
      | _ => (items fuel (skipBlank cs)).map fun (vs, r) => (.array vs, r) := rfl

theorem value_noItems {cs after : List Char} (h : skipBlank cs = ']' :: after) (fuel : Nat) :
    value (fuel + 1) ('[' :: cs) = .ok (.array [], after) := by
  rw [value_array, h]
  rfl

theorem value_items {cs : List Char} (h : ∀ after, skipBlank cs ≠ ']' :: after) (fuel : Nat) :
    value (fuel + 1) ('[' :: cs) =
      (items fuel (skipBlank cs)).map fun (vs, r) => (.array vs, r) := by
  rw [value_array]
  split
  · next after heq => exact absurd heq (h after)
  · rfl

theorem value_object (fuel : Nat) (cs : List Char) :
    value (fuel + 1) ('\x7b' :: cs) =
      match skipBlank cs with
      | '\x7d' :: after => .ok (.object [], after)
      | _ => (members fuel (skipBlank cs)).map fun (ms, r) => (.object ms, r) := rfl

theorem value_noMembers {cs after : List Char} (h : skipBlank cs = '\x7d' :: after) (fuel : Nat) :
    value (fuel + 1) ('\x7b' :: cs) = .ok (.object [], after) := by
  rw [value_object, h]
  rfl

theorem value_members {cs : List Char} (h : ∀ after, skipBlank cs ≠ '\x7d' :: after) (fuel : Nat) :
    value (fuel + 1) ('\x7b' :: cs) =
      (members fuel (skipBlank cs)).map fun (ms, r) => (.object ms, r) := by
  rw [value_object]
  split
  · next after heq => exact absurd heq (h after)
  · rfl

/-- A value starts neither with a blank nor with what closes an array. -/
theorem Phrase.exists_head {v : Value} {ts : List Token} (h : Phrase v ts) :
    ∃ c token more, ts = (c :: token) :: more ∧ isBlank c = false ∧ c ≠ ']' := by
  cases h with
  | number htoken =>
    obtain ⟨c, more, rfl, hc⟩ := htoken.exists_cons
    refine ⟨c, more, _, rfl, not_isBlank_of_numeral hc, ?_⟩
    rintro rfl
    revert hc
    decide
  | text htoken =>
    cases htoken
    exact ⟨_, _, _, rfl, by decide, by decide⟩
  | _ => exact ⟨_, _, _, rfl, by decide, by decide⟩

theorem Items.exists_head {vs : List Value} {ts : List Token} (h : Items vs ts) :
    ∃ c token more, ts = (c :: token) :: more ∧ isBlank c = false ∧ c ≠ ']' := by
  cases h with
  | last h => exact h.exists_head
  | more h =>
    obtain ⟨c, token, more, rfl, hc⟩ := h.exists_head
    exact ⟨c, token, _, rfl, hc⟩

theorem Members.exists_head {ms : List (Text × Value)} {ts : List Token} (h : Members ms ts) :
    ∃ token more, ts = ('"' :: token) :: more := by
  cases h with
  | last hkey => cases hkey; exact ⟨_, _, rfl⟩
  | more hkey => cases hkey; exact ⟨_, _, rfl⟩

mutual

theorem value_skipBlank {v : Value} {ts : List Token} (h : Phrase v ts) (us : List Token)
    {cs : List Char} (hlaid : Laid (ts ++ us) cs) (hus : Follows us) (fuel : Nat)
    (hfuel : 2 * ts.length ≤ fuel) :
    ∃ rest, value fuel (skipBlank cs) = .ok (v, rest) ∧ Laid us rest := by
  obtain ⟨fuel, rfl⟩ : ∃ n, fuel = n + 1 := by
    cases h <;> simp at hfuel <;> exact ⟨fuel - 1, by omega⟩
  cases h with
  | null =>
    obtain ⟨rest, hskip, hrest⟩ := hlaid.exists_skipBlank (by decide)
    exact ⟨rest, hskip ▸ value_null fuel rest, hrest⟩
  | isTrue =>
    obtain ⟨rest, hskip, hrest⟩ := hlaid.exists_skipBlank (by decide)
    exact ⟨rest, hskip ▸ value_true fuel rest, hrest⟩
  | isFalse =>
    obtain ⟨rest, hskip, hrest⟩ := hlaid.exists_skipBlank (by decide)
    exact ⟨rest, hskip ▸ value_false fuel rest, hrest⟩
  | number htoken hn =>
    obtain ⟨c, more, rfl, hc⟩ := htoken.exists_cons
    obtain ⟨rest, hskip, hrest⟩ := hlaid.exists_skipBlank (not_isBlank_of_numeral hc)
    obtain ⟨n', hn'⟩ := number_append htoken
    have hsame := hn.symm.trans (by simpa using hn' [] nofun)
    cases hsame
    refine ⟨rest, ?_, hrest⟩
    rw [hskip, value_numeral hc, ← List.cons_append, hn' rest (.of_laid hrest hus)]
    rfl
  | text htoken =>
    cases htoken with
    | mk hbody =>
      obtain ⟨rest, hskip, hrest⟩ := hlaid.exists_skipBlank (by decide)
      refine ⟨rest, ?_, hrest⟩
      rw [hskip, value_text, List.append_assoc, List.singleton_append, text_append hbody]
      rfl
  | noItems =>
    obtain ⟨rest, hskip, hrest⟩ := hlaid.exists_skipBlank (by decide)
    obtain ⟨rest', hskip', hrest'⟩ := hrest.exists_skipBlank (by decide)
    exact ⟨rest', hskip ▸ value_noItems hskip' fuel, hrest'⟩
  | @items vs ts hitems =>
    rw [List.cons_append, List.append_assoc, List.singleton_append] at hlaid
    obtain ⟨rest, hskip, hrest⟩ := hlaid.exists_skipBlank (by decide)
    have hopen : ∀ after, skipBlank rest ≠ ']' :: after := by
      obtain ⟨c, token, more, rfl, hblank, hc⟩ := hitems.exists_head
      obtain ⟨rest', hskip', -⟩ := hrest.exists_skipBlank hblank
      rw [hskip']
      rintro after ⟨⟩
      exact hc rfl
    have hlength : 2 * ts.length < fuel := by simp at hfuel; omega
    obtain ⟨rest', hread, hrest'⟩ := items_skipBlank hitems us hrest fuel hlength
    refine ⟨rest', ?_, hrest'⟩
    rw [hskip, List.nil_append, value_items hopen, hread]
    rfl
  | noMembers =>
    obtain ⟨rest, hskip, hrest⟩ := hlaid.exists_skipBlank (by decide)
    obtain ⟨rest', hskip', hrest'⟩ := hrest.exists_skipBlank (by decide)
    exact ⟨rest', hskip ▸ value_noMembers hskip' fuel, hrest'⟩
  | @members ms ts hmembers =>
    rw [List.cons_append, List.append_assoc, List.singleton_append] at hlaid
    obtain ⟨rest, hskip, hrest⟩ := hlaid.exists_skipBlank (by decide)
    have hopen : ∀ after, skipBlank rest ≠ '\x7d' :: after := by
      obtain ⟨token, more, rfl⟩ := hmembers.exists_head
      obtain ⟨rest', hskip', -⟩ := hrest.exists_skipBlank (by decide)
      simp [hskip']
    have hlength : 2 * ts.length < fuel := by simp at hfuel; omega
    obtain ⟨rest', hread, hrest'⟩ := members_skipBlank hmembers us hrest fuel hlength
    refine ⟨rest', ?_, hrest'⟩
    rw [hskip, List.nil_append, value_members hopen, hread]
    rfl

theorem items_skipBlank {vs : List Value} {ts : List Token} (h : Items vs ts) (us : List Token)
    {cs : List Char} (hlaid : Laid (ts ++ [']'] :: us) cs) (fuel : Nat)
    (hfuel : 2 * ts.length < fuel) :
    ∃ rest, items fuel (skipBlank cs) = .ok (vs, rest) ∧ Laid us rest := by
  obtain ⟨fuel, rfl⟩ : ∃ n, fuel = n + 1 := ⟨fuel - 1, by omega⟩
  cases h with
  | last hphrase =>
    obtain ⟨left, hread, hleft⟩ :=
      value_skipBlank hphrase _ hlaid (by simp [Follows]) fuel (by omega)
    obtain ⟨rest, hclose, hrest⟩ := hleft.exists_skipBlank (by decide)
    refine ⟨rest, ?_, hrest⟩
    simp only [items, hread, hclose, List.nil_append]
  | @more v vs ts ts' hphrase hitems =>
    rw [List.append_assoc, List.cons_append] at hlaid
    simp only [List.length_append, List.length_cons] at hfuel
    obtain ⟨left, hread, hleft⟩ :=
      value_skipBlank hphrase _ hlaid (by simp [Follows]) fuel (by omega)
    obtain ⟨more, hcomma, hmore⟩ := hleft.exists_skipBlank (by decide)
    obtain ⟨rest, hread', hrest⟩ := items_skipBlank hitems us hmore fuel (by omega)
    refine ⟨rest, ?_, hrest⟩
    simp only [items, hread, hcomma, List.nil_append, hread']
    rfl

theorem members_skipBlank {ms : List (Text × Value)} {ts : List Token} (h : Members ms ts)
    (us : List Token) {cs : List Char} (hlaid : Laid (ts ++ ['\x7d'] :: us) cs) (fuel : Nat)
    (hfuel : 2 * ts.length < fuel) :
    ∃ rest, members fuel (skipBlank cs) = .ok (ms, rest) ∧ Laid us rest := by
  obtain ⟨fuel, rfl⟩ : ∃ n, fuel = n + 1 := ⟨fuel - 1, by omega⟩
  cases h with
  | @last token key v ts hkey hphrase =>
    obtain ⟨hbody⟩ := hkey
    simp only [List.length_cons] at hfuel
    obtain ⟨afterKey, hquote, hafterKey⟩ := hlaid.exists_skipBlank (by decide)
    obtain ⟨afterColon, hcolon, hafterColon⟩ := hafterKey.exists_skipBlank (by decide)
    obtain ⟨left, hread, hleft⟩ :=
      value_skipBlank hphrase _ hafterColon (by simp [Follows]) fuel (by omega)
    obtain ⟨rest, hclose, hrest⟩ := hleft.exists_skipBlank (by decide)
    refine ⟨rest, ?_, hrest⟩
    rw [hquote, List.append_assoc, List.singleton_append]
    simp only [members, text_append hbody, hcolon, List.nil_append, hread, hclose]
  | @more token key v ms ts ts' hkey hphrase hmembers =>
    obtain ⟨hbody⟩ := hkey
    simp only [List.length_append, List.length_cons] at hfuel
    simp only [List.cons_append, List.append_assoc] at hlaid
    obtain ⟨afterKey, hquote, hafterKey⟩ := hlaid.exists_skipBlank (by decide)
    obtain ⟨afterColon, hcolon, hafterColon⟩ := hafterKey.exists_skipBlank (by decide)
    obtain ⟨left, hread, hleft⟩ :=
      value_skipBlank hphrase _ hafterColon (by simp [Follows]) fuel (by omega)
    obtain ⟨more, hcomma, hmore⟩ := hleft.exists_skipBlank (by decide)
    obtain ⟨rest, hread', hrest⟩ := members_skipBlank hmembers us hmore fuel (by omega)
    refine ⟨rest, ?_, hrest⟩
    rw [hquote, List.append_assoc, List.singleton_append]
    simp only [members, text_append hbody, hcolon, List.nil_append, hread, hcomma, hread']
    rfl

end

/-! ### Documents -/

theorem value_of_laid {v : Value} {ts : List Token} {cs : List Char} (h : Phrase v ts)
    (hlaid : Laid ts cs) :
    ∃ rest, value (2 * cs.length + 2) (skipBlank cs) = .ok (v, rest) ∧ skipBlank rest = [] := by
  have hfuel : 2 * ts.length ≤ 2 * cs.length + 2 := by
    have := hlaid.length_le
    omega
  obtain ⟨rest, hread, hrest⟩ := value_skipBlank h [] (by simpa using hlaid) nofun _ hfuel
  exact ⟨rest, hread, hrest.skipBlank_eq_nil⟩

/-- Reading accepts exactly the texts that spell a value, and gives that value. -/
theorem parse_eq_ok_iff {source : String} {v : Value} :
    parse source = .ok v ↔ Spells v source := by
  have hcomplete : ∀ {v}, Spells v source → parse source = .ok v := by
    rintro v ⟨ts, hts, hlaid⟩
    obtain ⟨rest, hread, hrest⟩ := value_of_laid hts hlaid
    simp only [parse, hread, hrest]
    rfl
  refine ⟨fun h => ?_, hcomplete⟩
  have hparse := h
  unfold parse at h
  dsimp only at h
  split at h
  · cases h
  · next v₁ rest hread =>
    split at h
    · next hempty =>
      cases h
      obtain ⟨v', ts, hts, hlaid⟩ := exists_phrase _ hread
      have hrest : Laid [] rest := by
        refine .of_skipBlank ?_
        rw [List.isEmpty_iff.1 hempty]
        exact .nil (List.forall_mem_nil _)
      have hspells : Spells v' source :=
        ⟨ts, hts, (by simpa using (hlaid [] hrest).of_skipBlank)⟩
      cases hparse.symm.trans (hcomplete hspells)
      exact hspells
    · cases h

end ComposeHarness.Json
