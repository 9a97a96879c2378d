import ComposeHarness.Json.Reading
import ComposeHarness.Proofs.Sequence

/-!
# Tokens of JSON

What a numeral and a quoted text look like, and that the reading of either takes exactly such a token
off the front of a document and leaves what follows it.
-/
namespace ComposeHarness.Json

/-! ### Numerals -/

/-- One or more digits. -/
def Digits (ds : List Char) : Prop := ds ≠ [] ∧ ∀ c ∈ ds, c.isDigit

/-- An optional minus sign. -/
inductive Minus : List Char → Prop where
  | none : Minus []
  | some : Minus ['-']

/-- An optional point with digits after it. -/
inductive Fraction : List Char → Prop where
  | none : Fraction []
  | some {places : List Char} (h : Digits places) : Fraction ('.' :: places)

/-- An optional power of ten. -/
inductive Exponent : List Char → Prop where
  | none : Exponent []
  | some {mark : Char} {sign power : List Char} (hmark : mark = 'e' ∨ mark = 'E')
      (hsign : sign = [] ∨ sign = ['-'] ∨ sign = ['+']) (h : Digits power) :
      Exponent (mark :: (sign ++ power))

/-- A number as it is written. No digit follows a zero at its front. -/
inductive Numeral : List Char → Prop where
  | mk {minus whole fraction exponent : List Char} (hminus : Minus minus) (hwhole : Digits whole)
      (hzero : whole.head? = some '0' → whole.length = 1) (hfraction : Fraction fraction)
      (hexponent : Exponent exponent) : Numeral (minus ++ (whole ++ (fraction ++ exponent)))

/-- Nothing at the front of the text could belong to a number before it. -/
def EndsNumber (cs : List Char) : Prop :=
  ∀ c ∈ cs.head?, c.isDigit = false ∧ c ≠ '.' ∧ c ≠ 'e' ∧ c ≠ 'E'

/-- No digit is at the front of the text. -/
def EndsDigits (cs : List Char) : Prop := ∀ c ∈ cs.head?, c.isDigit = false

theorem EndsNumber.endsDigits {cs : List Char} (h : EndsNumber cs) : EndsDigits cs :=
  fun c hc => (h c hc).1

theorem digits_append {ds cs : List Char} (hds : ∀ c ∈ ds, c.isDigit) (hcs : EndsDigits cs) :
    digits (ds ++ cs) = (ds, cs) := by
  have htake : cs.takeWhile Char.isDigit = [] := by
    cases cs with
    | nil => rfl
    | cons c cs => simp [hcs c rfl]
  have hdrop : cs.dropWhile Char.isDigit = cs := by
    cases cs with
    | nil => rfl
    | cons c cs => simp [hcs c rfl]
  rw [digits, List.takeWhile_append_of_pos hds, List.dropWhile_append_of_pos hds, htake, hdrop,
    List.append_nil]

theorem digits_spec (cs : List Char) :
    cs = (digits cs).1 ++ (digits cs).2 ∧ ∀ c ∈ (digits cs).1, c.isDigit :=
  ⟨List.takeWhile_append_dropWhile.symm, List.all_eq_true.1 List.all_takeWhile⟩

/-! What a numeral is made of is taken off the front part by part. -/

theorem exists_minus (cs : List Char) :
    ∃ minus, Minus minus ∧ cs = minus ++ (takeMinus cs).2 := by
  unfold takeMinus
  split
  · exact ⟨_, .some, rfl⟩
  · exact ⟨_, .none, rfl⟩

section
variable {cs rest : List Char}

theorem exists_fraction {fraction : Option (List Char)}
    (h : takeFraction cs = .ok (fraction, rest)) : ∃ ds, Fraction ds ∧ cs = ds ++ rest := by
  unfold takeFraction at h
  split at h
  · next more =>
    obtain ⟨hmore, hall⟩ := digits_spec more
    simp only at h
    split at h
    · cases h
    · next hne =>
      cases h
      exact ⟨_, .some ⟨by simpa using hne, hall⟩, by rw [List.cons_append, ← hmore]⟩
  · cases h
    exact ⟨_, .none, rfl⟩

theorem exists_sign (cs : List Char) : ∃ sign, (sign = [] ∨ sign = ['-'] ∨ sign = ['+']) ∧
    cs = sign ++ (Text.splitSign cs).2 := by
  unfold Text.splitSign
  split
  · exact ⟨_, .inr (.inl rfl), rfl⟩
  · exact ⟨_, .inr (.inr rfl), rfl⟩
  · exact ⟨_, .inl rfl, rfl⟩

theorem exists_exponent {power : Option Int} (h : takeExponent cs = .ok (power, rest)) :
    ∃ ds, Exponent ds ∧ cs = ds ++ rest := by
  unfold takeExponent at h
  split at h
  · cases h
    exact ⟨_, .none, rfl⟩
  · next mark more =>
    split at h
    · next hmark =>
      obtain ⟨sign, hsign, hmore⟩ := exists_sign more
      obtain ⟨hpower, hall⟩ := digits_spec (Text.splitSign more).2
      simp only at h
      split at h
      · cases h
      · next hne =>
        cases h
        refine ⟨_, .some (by simpa using hmark) hsign ⟨by simpa using hne, hall⟩, ?_⟩
        rw [List.cons_append, List.append_assoc, ← hpower, ← hmore]
    · cases h
      exact ⟨_, .none, rfl⟩

/-- A number that is read is a numeral at the front of the text. -/
theorem exists_numeral {n : Number} (h : number cs = .ok (n, rest)) :
    ∃ ds, Numeral ds ∧ cs = ds ++ rest := by
  unfold number at h
  obtain ⟨minus, hminus, hcs⟩ := exists_minus cs
  obtain ⟨hrest, hall⟩ := digits_spec (takeMinus cs).2
  simp only at h
  split at h
  · cases h
  · next hwhole =>
    obtain ⟨⟨fraction, left⟩, hfraction, h⟩ := Sequence.bind_eq_ok_iff.1 h
    obtain ⟨⟨power, left'⟩, hpower, h⟩ := Sequence.bind_eq_ok_iff.1 h
    cases h
    obtain ⟨places, hplaces, hleft⟩ := exists_fraction hfraction
    obtain ⟨exponent, hexponent, hleft'⟩ := exists_exponent hpower
    simp only [Bool.or_eq_true, Bool.and_eq_true, List.isEmpty_iff, beq_iff_eq, bne_iff_ne,
      not_or, not_and, not_not] at hwhole
    refine ⟨_, .mk hminus ⟨hwhole.1, hall⟩ hwhole.2 hplaces hexponent, ?_⟩
    calc cs = minus ++ (takeMinus cs).2 := hcs
      _ = minus ++ ((digits (takeMinus cs).2).1 ++ (places ++ (exponent ++ left'))) := by
        rw [← hleft', ← hleft, ← hrest]
      _ = _ := by simp only [List.append_assoc]

end

theorem takeMinus_append {minus cs : List Char} (h : Minus minus) (hcs : ∀ c ∈ cs.head?, c ≠ '-') :
    takeMinus (minus ++ cs) = (!minus.isEmpty, cs) := by
  cases h with
  | none =>
    unfold takeMinus
    split
    · next rest heq =>
      have : cs = '-' :: rest := heq
      exact absurd rfl (hcs '-' (by rw [this]; rfl))
    · rfl
  | some => rfl

theorem takeFraction_append {fraction : List Char} (h : Fraction fraction) :
    ∃ places, ∀ cs, EndsDigits cs → (∀ c ∈ cs.head?, c ≠ '.') →
      takeFraction (fraction ++ cs) = .ok (places, cs) := by
  cases h with
  | none =>
    refine ⟨none, fun cs _ hpoint => ?_⟩
    unfold takeFraction
    split
    · next rest heq =>
      have : cs = '.' :: rest := heq
      exact absurd rfl (hpoint '.' (by rw [this]; rfl))
    · rfl
  | @some places h =>
    refine ⟨some places, fun cs hcs _ => ?_⟩
    have hne : places.isEmpty = false := by simpa using h.1
    simp only [List.cons_append, takeFraction, digits_append h.2 hcs, hne]
    rfl

theorem splitSign_append {sign power cs : List Char}
    (hsign : sign = [] ∨ sign = ['-'] ∨ sign = ['+']) (h : Digits power) :
    Text.splitSign (sign ++ (power ++ cs)) = (sign == ['-'], power ++ cs) := by
  rcases hsign with rfl | rfl | rfl
  · obtain ⟨c, ds, rfl⟩ := List.exists_cons_of_ne_nil h.1
    have hdigit := h.2 c (by simp)
    unfold Text.splitSign
    split
    · next heq =>
      cases heq
      exact absurd hdigit (by decide)
    · next heq =>
      cases heq
      exact absurd hdigit (by decide)
    · rfl
  · rfl
  · rfl

theorem takeExponent_append {exponent : List Char} (h : Exponent exponent) :
    ∃ power, ∀ cs, EndsDigits cs → (∀ c ∈ cs.head?, c ≠ 'e' ∧ c ≠ 'E') →
      takeExponent (exponent ++ cs) = .ok (power, cs) := by
  cases h with
  | none =>
    refine ⟨none, fun cs _ hmark => ?_⟩
    cases cs with
    | nil => rfl
    | cons c cs =>
      have hc := hmark c rfl
      simp [takeExponent, hc.1, hc.2]
  | @some mark sign power hmark hsign h =>
    have hne : power.isEmpty = false := by simpa using h.1
    have hmark' : (mark == 'e' || mark == 'E') = true := by simpa using hmark
    refine ⟨some (if sign == ['-'] then -Text.numeral 10 power else Text.numeral 10 power),
      fun cs hcs _ => ?_⟩
    rw [List.cons_append, List.append_assoc]
    simp only [takeExponent, hmark', if_true, splitSign_append hsign h, digits_append h.2 hcs, hne]
    rfl

/-- A text that starts with a power of ten goes on with no digit and no point. -/
theorem Exponent.endsFraction {exponent cs : List Char} (h : Exponent exponent)
    (hcs : EndsNumber cs) : EndsDigits (exponent ++ cs) ∧ ∀ c ∈ (exponent ++ cs).head?, c ≠ '.' := by
  cases h with
  | none => exact ⟨hcs.endsDigits, fun c hc => (hcs c hc).2.1⟩
  | some hmark =>
    refine ⟨fun c hc => ?_, fun c hc => ?_⟩ <;> cases hc <;> rcases hmark with rfl | rfl <;> decide

theorem Fraction.endsDigits {fraction cs : List Char} (h : Fraction fraction)
    (hcs : EndsDigits cs) : EndsDigits (fraction ++ cs) := by
  cases h with
  | none => exact hcs
  | some =>
    intro c hc
    cases hc
    decide

/-- A numeral is read whatever follows it, if only that could not belong to it. -/
theorem number_append {ds : List Char} (h : Numeral ds) :
    ∃ n, ∀ cs, EndsNumber cs → number (ds ++ cs) = .ok (n, cs) := by
  obtain @⟨minus, whole, fraction, exponent, hminus, hwhole, hzero, hfraction, hexponent⟩ := h
  obtain ⟨places, hplaces⟩ := takeFraction_append hfraction
  obtain ⟨power, hpower⟩ := takeExponent_append hexponent
  refine ⟨numberOf (!minus.isEmpty) whole places power, fun cs hcs => ?_⟩
  obtain ⟨hdigits, hpoint⟩ := hexponent.endsFraction hcs
  have hdash : ∀ c ∈ (whole ++ (fraction ++ (exponent ++ cs))).head?, c ≠ '-' := by
    obtain ⟨d, more, rfl⟩ := List.exists_cons_of_ne_nil hwhole.1
    rintro c ⟨⟩ rfl
    exact absurd (hwhole.2 '-' (by simp)) (by decide)
  have hvalid : (whole.isEmpty || whole.head? == some '0' && whole.length != 1) = false := by
    have hne : whole.isEmpty = false := by simpa using hwhole.1
    by_cases h0 : whole.head? = some '0'
    · simp [hne, hzero h0]
    · simp [hne, h0]
  simp only [List.append_assoc, number, takeMinus_append hminus hdash,
    digits_append hwhole.2 (hfraction.endsDigits hdigits), hvalid, hplaces _ hdigits hpoint]
  simp only [Bool.false_eq_true, if_false, bind, Except.bind,
    hpower cs hcs.endsDigits fun c hc => (hcs c hc).2.2]

/-! ### Texts -/

/-- Four hexadecimal digits, and the number that they make. -/
structure Hex (ds : List Char) (n : Nat) : Prop where
  length : ds.length = 4
  digits : ds.all (Text.isDigitOf 16)
  value : Text.numeral 16 ds = n

theorem hex4_eq_some_iff {cs rest : List Char} {n : Nat} :
    hex4 cs = some (n, rest) ↔ ∃ ds, Hex ds n ∧ cs = ds ++ rest := by
  constructor
  · intro h
    unfold hex4 at h
    split at h
    · next a b c d more =>
      split at h
      · next hall =>
        cases h
        exact ⟨[a, b, c, d], ⟨rfl, hall, rfl⟩, rfl⟩
      · cases h
    · cases h
  · rintro ⟨ds, ⟨hlength, hall, rfl⟩, rfl⟩
    obtain ⟨a, b, c, d, rfl⟩ := List.length_eq_four.1 hlength
    simp only [List.cons_append, List.nil_append, hex4, hall, if_true]

/-- The number is that of the first half of a pair. -/
def IsHighHalf (n : Nat) : Prop := 0xD800 ≤ n ∧ n < 0xDC00

/-- The number is that of the second half of a pair. -/
def IsLowHalf (n : Nat) : Prop := 0xDC00 ≤ n ∧ n < 0xE000

/-- An escaped second half of a pair is at the front of the text. -/
def StartsWithLowHalf (cs : List Char) : Prop :=
  ∃ ds n rest, Hex ds n ∧ IsLowHalf n ∧ cs = '\\' :: 'u' :: (ds ++ rest)

/-- The characters between the quotes of a text, and what they stand for. A half of a pair that stands
alone stands for nothing. -/
inductive Spelling : List Char → Option (List Char) → Prop where
  | nil : Spelling [] (some [])
  | plain {c : Char} {cs : List Char} {s : Option (List Char)} (hcontrol : 0x20 ≤ c.toNat)
      (hquote : c ≠ '"') (hescape : c ≠ '\\') (rest : Spelling cs s) :
      Spelling (c :: cs) (s.map (c :: ·))
  | escape {c d : Char} {cs : List Char} {s : Option (List Char)} (h : simpleEscape c = some d)
      (rest : Spelling cs s) : Spelling ('\\' :: c :: cs) (s.map (d :: ·))
  | codePoint {ds cs : List Char} {n : Nat} {s : Option (List Char)} (h : Hex ds n)
      (hhigh : ¬IsHighHalf n) (hlow : ¬IsLowHalf n) (rest : Spelling cs s) :
      Spelling ('\\' :: 'u' :: (ds ++ cs)) (s.map (Char.ofNat n :: ·))
  | pair {ds es cs : List Char} {high low : Nat} {s : Option (List Char)} (h : Hex ds high)
      (h' : Hex es low) (hhigh : IsHighHalf high) (hlow : IsLowHalf low) (rest : Spelling cs s) :
      Spelling ('\\' :: 'u' :: (ds ++ '\\' :: 'u' :: (es ++ cs)))
        (s.map (Char.ofNat (0x10000 + (high - 0xD800) * 1024 + (low - 0xDC00)) :: ·))
  | lowHalf {ds cs : List Char} {n : Nat} {s : Option (List Char)} (h : Hex ds n)
      (hlow : IsLowHalf n) (rest : Spelling cs s) : Spelling ('\\' :: 'u' :: (ds ++ cs)) none
  | highHalf {ds cs : List Char} {n : Nat} {s : Option (List Char)} (h : Hex ds n)
      (hhigh : IsHighHalf n) (alone : ¬StartsWithLowHalf cs) (rest : Spelling cs s) :
      Spelling ('\\' :: 'u' :: (ds ++ cs)) none

/-- A text between quotes, and what it stands for, if it stands for a text. -/
inductive Quotation : List Char → Text → Prop where
  | mk {cs : List Char} {s : Option (List Char)} (h : Spelling cs s) :
      Quotation ('"' :: (cs ++ ['"'])) (s.map String.ofList)

/-- The character stands for itself between the quotes. -/
def isPlain (c : Char) : Bool := 0x20 ≤ c.toNat && c != '"' && c != '\\'

theorem Spelling.of_plain {cs : List Char} (h : cs.all isPlain) : Spelling cs (some cs) := by
  induction cs with
  | nil => exact .nil
  | cons c cs ih =>
    simp only [List.all_cons, isPlain, Bool.and_eq_true, decide_eq_true_eq, bne_iff_ne] at h
    obtain ⟨⟨⟨hcontrol, hquote⟩, hescape⟩, hrest⟩ := h
    exact .plain hcontrol hquote hescape (ih hrest)

theorem Quotation.of_plain (s : String) (h : s.toList.all isPlain) :
    Quotation ('"' :: (s.toList ++ ['"'])) (some s) := by
  have hquote := Quotation.mk (.of_plain h)
  rwa [Option.map_some, String.ofList_toList] at hquote

section
variable {cs rest : List Char} {n : Nat}

theorem isHighHalf_iff : (0xD800 ≤ n && n < 0xDC00) = true ↔ IsHighHalf n := by simp [IsHighHalf]

theorem isLowHalf_iff : (0xDC00 ≤ n && n < 0xE000) = true ↔ IsLowHalf n := by simp [IsLowHalf]

theorem secondHalf_eq_some_iff : secondHalf cs = .ok (some (n, rest)) ↔
    ∃ ds, Hex ds n ∧ IsLowHalf n ∧ cs = '\\' :: 'u' :: (ds ++ rest) := by
  constructor
  · intro h
    unfold secondHalf at h
    split at h
    · next more =>
      split at h
      · cases h
      · next low after hhex =>
        split at h
        · next hlow =>
          cases h
          obtain ⟨ds, hds, rfl⟩ := hex4_eq_some_iff.1 hhex
          exact ⟨ds, hds, isLowHalf_iff.1 hlow, rfl⟩
        · cases h
    · cases h
  · rintro ⟨ds, hds, hlow, rfl⟩
    simp only [secondHalf, hex4_eq_some_iff.2 ⟨ds, hds, rfl⟩, isLowHalf_iff.2 hlow, if_true]

theorem startsWithLowHalf_iff :
    StartsWithLowHalf cs ↔ ∃ n rest, secondHalf cs = .ok (some (n, rest)) := by
  simp only [secondHalf_eq_some_iff, StartsWithLowHalf]
  exact ⟨fun ⟨ds, n, rest, h⟩ => ⟨n, rest, ds, h⟩, fun ⟨n, rest, ds, h⟩ => ⟨ds, n, rest, h⟩⟩

theorem StartsWithLowHalf.append (h : StartsWithLowHalf cs) (rest : List Char) :
    StartsWithLowHalf (cs ++ rest) := by
  obtain ⟨ds, n, more, hds, hlow, rfl⟩ := h
  exact ⟨ds, n, more ++ rest, hds, hlow, by simp⟩

theorem secondHalf_hex {ds : List Char} (h : Hex ds n) (hlow : ¬IsLowHalf n) (cs : List Char) :
    secondHalf ('\\' :: 'u' :: (ds ++ cs)) = .ok none := by
  simp only [secondHalf, hex4_eq_some_iff.2 ⟨ds, h, rfl⟩, if_neg (mt isLowHalf_iff.1 hlow)]

theorem IsHighHalf.not_isLowHalf (h : IsHighHalf n) : ¬IsLowHalf n :=
  fun hlow => Nat.not_lt.2 hlow.1 h.2

/-- No half of a pair is found where a text does not go on with one. -/
theorem Spelling.secondHalf_append {body : List Char} {s : Option (List Char)}
    (h : Spelling body s) (halone : ¬StartsWithLowHalf body) (rest : List Char) :
    secondHalf (body ++ '"' :: rest) = .ok none := by
  have hother : ∀ cs : List Char, (∀ more, cs ≠ '\\' :: 'u' :: more) →
      secondHalf cs = .ok none := by
    intro cs hcs
    unfold secondHalf
    split
    · next more => exact absurd rfl (hcs more)
    · rfl
  cases h with
  | nil => exact hother _ (by simp)
  | plain _ _ hescape => exact hother _ (by simp [hescape])
  | @escape c d cs _ h =>
    refine hother _ fun more heq => ?_
    simp only [List.cons_append, List.cons.injEq, true_and] at heq
    obtain ⟨rfl, -⟩ := heq
    cases h
  | codePoint h _ hlow => simpa using secondHalf_hex h hlow _
  | pair h _ hhigh => simpa using secondHalf_hex h hhigh.not_isLowHalf _
  | @lowHalf ds cs _ _ h hlow => exact absurd ⟨ds, _, cs, h, hlow, rfl⟩ halone
  | highHalf h hhigh => simpa using secondHalf_hex h hhigh.not_isLowHalf _

end

/-- The characters after one that has been read. -/
theorem exists_textFrom {cs rest : List Char} {s : Option (List Char)}
    {f : Option (List Char) → Option (List Char)}
    (h : ((textFrom cs).map fun (s, r) => (f s, r)) = .ok (s, rest)) :
    ∃ s', textFrom cs = .ok (s', rest) ∧ f s' = s := by
  obtain ⟨⟨s', rest'⟩, hread, heq⟩ := Sequence.map_eq_ok_iff.1 h
  cases heq
  exact ⟨s', hread, rfl⟩

theorem exists_spelling {cs rest : List Char} {s : Option (List Char)}
    (h : textFrom cs = .ok (s, rest)) : ∃ body, Spelling body s ∧ cs = body ++ '"' :: rest := by
  fun_induction textFrom cs generalizing s rest with
  | case1 => cases h
  | case2 more =>
    cases h
    exact ⟨[], .nil, rfl⟩
  | case3 => cases h
  | case4 => cases h
  | case5 => cases h
  | case6 more n after hhex _ hhigh low later hsecond _ c =>
    rename_i ih
    obtain ⟨s', hread, rfl⟩ := exists_textFrom h
    obtain ⟨body, hbody, rfl⟩ := ih hread
    obtain ⟨ds, hds, rfl⟩ := hex4_eq_some_iff.1 hhex
    obtain ⟨es, hes, hlow, rfl⟩ := secondHalf_eq_some_iff.1 hsecond
    exact ⟨_, .pair hds hes (isHighHalf_iff.1 hhigh) hlow hbody, by simp⟩
  | case7 more n after hhex _ hhigh hsecond ih =>
    obtain ⟨s', hread, rfl⟩ := exists_textFrom (f := fun _ => none) h
    obtain ⟨body, hbody, rfl⟩ := ih hread
    obtain ⟨ds, hds, rfl⟩ := hex4_eq_some_iff.1 hhex
    have halone : ¬StartsWithLowHalf body := by
      intro hstarts
      obtain ⟨low, later, hsome⟩ := startsWithLowHalf_iff.1 (hstarts.append ('"' :: rest))
      simp [hsecond] at hsome
    exact ⟨_, .highHalf hds (isHighHalf_iff.1 hhigh) halone hbody, by simp⟩
  | case8 more n after hhex _ hhigh hlow ih =>
    obtain ⟨s', hread, rfl⟩ := exists_textFrom (f := fun _ => none) h
    obtain ⟨body, hbody, rfl⟩ := ih hread
    obtain ⟨ds, hds, rfl⟩ := hex4_eq_some_iff.1 hhex
    exact ⟨_, .lowHalf hds (isLowHalf_iff.1 hlow) hbody, by simp⟩
  | case9 more n after hhex _ hhigh hlow ih =>
    obtain ⟨s', hread, rfl⟩ := exists_textFrom h
    obtain ⟨body, hbody, rfl⟩ := ih hread
    obtain ⟨ds, hds, rfl⟩ := hex4_eq_some_iff.1 hhex
    exact ⟨_, .codePoint hds (mt isHighHalf_iff.2 hhigh) (mt isLowHalf_iff.2 hlow) hbody, by simp⟩
  | case10 => cases h
  | case11 c more _ d hescape ih =>
    obtain ⟨s', hread, rfl⟩ := exists_textFrom h
    obtain ⟨body, hbody, rfl⟩ := ih hread
    exact ⟨_, .escape hescape hbody, rfl⟩
  | case12 => cases h
  | case13 c more hquote hend _ hescape hcontrol ih =>
    obtain ⟨s', hread, rfl⟩ := exists_textFrom h
    obtain ⟨body, hbody, rfl⟩ := ih hread
    have hbackslash : c ≠ '\\' := by
      rintro rfl
      cases hmore : body ++ '"' :: rest with
      | nil => exact hend rfl hmore
      | cons d more => exact hescape d more rfl hmore
    exact ⟨_, .plain (Nat.not_lt.1 hcontrol) hquote hbackslash hbody, rfl⟩

section
variable {ds cs : List Char} {n : Nat}

/-- How the text goes on after an escaped number. -/
theorem textFrom_hex (h : Hex ds n) :
    textFrom ('\\' :: 'u' :: (ds ++ cs)) =
      if 0xD800 ≤ n && n < 0xDC00 then
        match secondHalf cs with
        | .error reason => .error reason
        | .ok (some (low, later)) =>
          (textFrom later).map fun (s, r) =>
            (s.map (Char.ofNat (0x10000 + (n - 0xD800) * 1024 + (low - 0xDC00)) :: ·), r)
        | .ok none => (textFrom cs).map fun (_, r) => (none, r)
      else if 0xDC00 ≤ n && n < 0xE000 then (textFrom cs).map fun (_, r) => (none, r)
      else (textFrom cs).map fun (s, r) => (s.map (Char.ofNat n :: ·), r) := by
  rw [textFrom]
  split
  · next hnone => simp [hex4_eq_some_iff.2 ⟨ds, h, rfl⟩] at hnone
  · next hsome =>
    cases (hex4_eq_some_iff.2 ⟨ds, h, rfl⟩).symm.trans hsome
    dsimp only
    congr 1
    split <;> next hsecond => rw [hsecond]

theorem textFrom_codePoint (h : Hex ds n) (hhigh : ¬IsHighHalf n) (hlow : ¬IsLowHalf n) :
    textFrom ('\\' :: 'u' :: (ds ++ cs)) =
      (textFrom cs).map fun (s, r) => (s.map (Char.ofNat n :: ·), r) := by
  rw [textFrom_hex h, if_neg (mt isHighHalf_iff.1 hhigh), if_neg (mt isLowHalf_iff.1 hlow)]

theorem textFrom_lowHalf (h : Hex ds n) (hlow : IsLowHalf n) :
    textFrom ('\\' :: 'u' :: (ds ++ cs)) = (textFrom cs).map fun (_, r) => (none, r) := by
  have hhigh : ¬IsHighHalf n := fun hhigh => hhigh.not_isLowHalf hlow
  rw [textFrom_hex h, if_neg (mt isHighHalf_iff.1 hhigh), if_pos (isLowHalf_iff.2 hlow)]

theorem textFrom_highHalf (h : Hex ds n) (hhigh : IsHighHalf n) (hsecond : secondHalf cs = .ok none) :
    textFrom ('\\' :: 'u' :: (ds ++ cs)) = (textFrom cs).map fun (_, r) => (none, r) := by
  rw [textFrom_hex h, if_pos (isHighHalf_iff.2 hhigh), hsecond]

theorem textFrom_pair {es : List Char} {low : Nat} (h : Hex ds n) (h' : Hex es low)
    (hhigh : IsHighHalf n) (hlow : IsLowHalf low) :
    textFrom ('\\' :: 'u' :: (ds ++ '\\' :: 'u' :: (es ++ cs))) =
      (textFrom cs).map fun (s, r) =>
        (s.map (Char.ofNat (0x10000 + (n - 0xD800) * 1024 + (low - 0xDC00)) :: ·), r) := by
  have hsecond := secondHalf_eq_some_iff.2 ⟨es, h', hlow, (rfl : _ = '\\' :: 'u' :: (es ++ cs))⟩
  rw [textFrom_hex h, if_pos (isHighHalf_iff.2 hhigh), hsecond]

theorem textFrom_escape {c d : Char} (h : simpleEscape c = some d) :
    textFrom ('\\' :: c :: cs) = (textFrom cs).map fun (s, r) => (s.map (d :: ·), r) := by
  rw [textFrom]
  · simp only [h]
  · rintro rfl
    cases h

theorem textFrom_plain {c : Char} (hcontrol : 0x20 ≤ c.toNat) (hquote : c ≠ '"')
    (hescape : c ≠ '\\') :
    textFrom (c :: cs) = (textFrom cs).map fun (s, r) => (s.map (c :: ·), r) := by
  rw [textFrom]
  · exact if_neg (Nat.not_lt.2 hcontrol)
  all_goals simp [hquote, hescape]

end

/-- What a text stands for is read up to its closing quote, whatever follows. -/
theorem textFrom_append {body : List Char} {s : Option (List Char)} (h : Spelling body s)
    (rest : List Char) : textFrom (body ++ '"' :: rest) = .ok (s, rest) := by
  induction h with
  | nil => simp [textFrom]
  | plain hcontrol hquote hescape _ ih =>
    rw [List.cons_append, textFrom_plain hcontrol hquote hescape, ih]
    rfl
  | escape h _ ih =>
    rw [List.cons_append, List.cons_append, textFrom_escape h, ih]
    rfl
  | codePoint h hhigh hlow _ ih =>
    simp only [List.cons_append, List.append_assoc, textFrom_codePoint h hhigh hlow, ih]
    rfl
  | pair h h' hhigh hlow _ ih =>
    simp only [List.cons_append, List.append_assoc, textFrom_pair h h' hhigh hlow, ih]
    rfl
  | lowHalf h hlow _ ih =>
    simp only [List.cons_append, List.append_assoc, textFrom_lowHalf h hlow, ih]
    rfl
  | highHalf h hhigh alone hbody ih =>
    have hsecond := hbody.secondHalf_append alone rest
    simp only [List.cons_append, List.append_assoc, textFrom_highHalf h hhigh hsecond, ih]
    rfl

theorem exists_quotation {cs rest : List Char} {s : Text} (h : text cs = .ok (s, rest)) :
    ∃ token, Quotation token s ∧ '"' :: cs = token ++ rest := by
  obtain ⟨⟨s', rest'⟩, hread, heq⟩ := Sequence.map_eq_ok_iff.1 h
  cases heq
  obtain ⟨body, hbody, rfl⟩ := exists_spelling hread
  exact ⟨_, .mk hbody, by simp⟩

theorem text_append {body : List Char} {s : Option (List Char)} (h : Spelling body s)
    (rest : List Char) : text (body ++ '"' :: rest) = .ok (s.map String.ofList, rest) := by
  rw [text, textFrom_append h]
  rfl

end ComposeHarness.Json
