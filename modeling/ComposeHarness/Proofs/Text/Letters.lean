import Mathlib.Data.List.Perm.Basic
import Mathlib.Tactic.SplitIfs
import ComposeHarness.Text.Lossy

/-!
# Bytes that write letters

Bytes write text if they are the bytes of some letters. Then they are read as just these letters,
whatever comes after them. If they write no text, their reading has a replacement character for
every part that is no letter, and writing it out again does not give the same bytes in any order.
-/
namespace ComposeHarness.Text

/-! ### The numbers of bytes -/

theorem toNat_ofNat {n : Nat} (h : n.isValidChar) : (Char.ofNat n).toNat = n := by
  rw [Char.ofNat, dif_pos h]
  rfl

theorem ofNat_eq_iff {n : Nat} {b : UInt8} (h : n < 256) : UInt8.ofNat n = b ↔ n = b.toNat := by
  rw [UInt8.ofNat_eq_iff_mod_eq_toNat, Nat.mod_eq_of_lt h]

theorem isTail_iff {b : UInt8} : isTail b ↔ 0x80 ≤ b.toNat ∧ b.toNat < 0xC0 := by
  simp only [isTail, UInt8.le_iff_toNat_le, Bool.and_eq_true, decide_eq_true_eq]
  simp
  omega

/-- What may follow a first byte of three or four: a tail, but not all of them after four of the
first bytes. -/
theorem secondBounds_iff {b b₁ : UInt8} :
    ((secondBounds b).1 ≤ b₁ ∧ b₁ ≤ (secondBounds b).2) ↔
      (0x80 ≤ b₁.toNat ∧ b₁.toNat < 0xC0) ∧ (b.toNat = 0xE0 → 0xA0 ≤ b₁.toNat) ∧
        (b.toNat = 0xED → b₁.toNat < 0xA0) ∧ (b.toNat = 0xF0 → 0x90 ≤ b₁.toNat) ∧
        (b.toNat = 0xF4 → b₁.toNat < 0x90) := by
  unfold secondBounds
  simp only [UInt8.le_iff_toNat_le]
  split_ifs <;> simp [← UInt8.toNat_inj] at * <;> omega

/-! ### One letter -/

/-- What the first step of a reading can find. -/
inductive Front : UInt8 → Bytes → Decoded → Prop where
  | one {b : UInt8} {rest : Bytes} (h : b.toNat < 0x80) :
      Front b rest (.char (Char.ofNat b.toNat) 1)
  | two {b b₁ : UInt8} {rest : Bytes} (low : 0xC2 ≤ b.toNat) (high : b.toNat < 0xE0)
      (h₁ : isTail b₁) :
      Front b (b₁ :: rest) (.char (Char.ofNat (b.toNat % 32 * 64 + tailBits b₁)) 2)
  | three {b b₁ b₂ : UInt8} {rest : Bytes} (low : 0xE0 ≤ b.toNat) (high : b.toNat < 0xF0)
      (h₁ : (secondBounds b).1 ≤ b₁ ∧ b₁ ≤ (secondBounds b).2) (h₂ : isTail b₂) :
      Front b (b₁ :: b₂ :: rest)
        (.char (Char.ofNat ((b.toNat % 16 * 64 + tailBits b₁) * 64 + tailBits b₂)) 3)
  | four {b b₁ b₂ b₃ : UInt8} {rest : Bytes} (low : 0xF0 ≤ b.toNat) (high : b.toNat < 0xF5)
      (h₁ : (secondBounds b).1 ≤ b₁ ∧ b₁ ≤ (secondBounds b).2) (h₂ : isTail b₂) (h₃ : isTail b₃) :
      Front b (b₁ :: b₂ :: b₃ :: rest) (.char (Char.ofNat
        (((b.toNat % 8 * 64 + tailBits b₁) * 64 + tailBits b₂) * 64 + tailBits b₃)) 4)
  /-- No letter; a part of three bytes starts like a letter of four. -/
  | invalid {b : UInt8} {rest : Bytes} {n : Nat} (h : n ≤ 2 ∨ n = 3 ∧ 0xF0 ≤ b.toNat) :
      Front b rest (.invalid n)

theorem front_decodeOne (b : UInt8) (rest : Bytes) : Front b rest (decodeOne b rest) := by
  have hbounds : ∀ b₁ : UInt8, ((secondBounds b).1 ≤ b₁ && b₁ ≤ (secondBounds b).2) = true →
      (secondBounds b).1 ≤ b₁ ∧ b₁ ≤ (secondBounds b).2 := fun b₁ h => by simpa using h
  simp only [decodeOne, UInt8.lt_iff_toNat_lt, UInt8.reduceToNat]
  split
  · next h => exact .one h
  split
  · exact .invalid (.inl (by decide))
  split
  · cases rest with
    | nil => exact .invalid (.inl (by decide))
    | cons b₁ rest =>
      dsimp only
      split
      · next h₁ => exact .two (by omega) (by omega) h₁
      · exact .invalid (.inl (by decide))
  split
  · cases rest with
    | nil => exact .invalid (.inl (by decide))
    | cons b₁ rest =>
      dsimp only
      split
      · next h₁ =>
        cases rest with
        | nil => exact .invalid (.inl (by decide))
        | cons b₂ rest =>
          dsimp only
          split
          · next h₂ =>
            split
            · exact .three (by omega) (by omega) (hbounds b₁ h₁) h₂
            · cases rest with
              | nil => exact .invalid (.inr ⟨rfl, by omega⟩)
              | cons b₃ rest =>
                dsimp only
                split
                · next h₃ => exact .four (by omega) (by omega) (hbounds b₁ h₁) h₂ h₃
                · exact .invalid (.inr ⟨rfl, by omega⟩)
          · exact .invalid (.inl (by decide))
      · exact .invalid (.inl (by decide))
  · exact .invalid (.inl (by decide))

/-- What is read as a letter is the bytes of that letter. -/
theorem encodeChar_of_decodeOne {b : UInt8} {rest : Bytes} {c : Char} {n : Nat}
    (hread : decodeOne b rest = .char c n) : encodeChar c ++ rest.drop (n - 1) = b :: rest := by
  have hfront := front_decodeOne b rest
  rw [hread] at hfront
  cases hfront with
  | one h =>
    have hchar := toNat_ofNat (.inl (by omega) : b.toNat.isValidChar)
    simp only [encodeChar, hchar]
    rw [if_pos h, UInt8.ofNat_toNat]
    rfl
  | @two b₁ rest low high h₁ =>
    rw [isTail_iff] at h₁
    have hchar := toNat_ofNat
      (.inl (by unfold tailBits; omega) : (b.toNat % 32 * 64 + tailBits b₁).isValidChar)
    simp only [encodeChar, hchar]
    unfold tailBits at *
    rw [if_neg (by omega), if_pos (by omega), (ofNat_eq_iff (by omega) (b := b)).2 (by omega),
      (ofNat_eq_iff (by omega) (b := b₁)).2 (by omega)]
    rfl
  | @three b₁ b₂ rest low high h₁ h₂ =>
    rw [isTail_iff] at h₂
    rw [secondBounds_iff] at h₁
    have hchar := toNat_ofNat (n := (b.toNat % 16 * 64 + tailBits b₁) * 64 + tailBits b₂)
      (by unfold tailBits Nat.isValidChar; omega)
    simp only [encodeChar, hchar]
    unfold tailBits at *
    rw [if_neg (by omega), if_neg (by omega), if_pos (by omega),
      (ofNat_eq_iff (by omega) (b := b)).2 (by omega),
      (ofNat_eq_iff (by omega) (b := b₁)).2 (by omega),
      (ofNat_eq_iff (by omega) (b := b₂)).2 (by omega)]
    rfl
  | @four b₁ b₂ b₃ rest low high h₁ h₂ h₃ =>
    rw [isTail_iff] at h₂ h₃
    rw [secondBounds_iff] at h₁
    have hchar := toNat_ofNat
      (n := ((b.toNat % 8 * 64 + tailBits b₁) * 64 + tailBits b₂) * 64 + tailBits b₃)
      (by unfold tailBits Nat.isValidChar; omega)
    simp only [encodeChar, hchar]
    unfold tailBits at *
    rw [if_neg (by omega), if_neg (by omega), if_neg (by omega),
      (ofNat_eq_iff (by omega) (b := b)).2 (by omega),
      (ofNat_eq_iff (by omega) (b := b₁)).2 (by omega),
      (ofNat_eq_iff (by omega) (b := b₂)).2 (by omega),
      (ofNat_eq_iff (by omega) (b := b₃)).2 (by omega)]
    rfl

theorem decodeOne_two {b b₁ : UInt8} (low : 0xC2 ≤ b.toNat) (high : b.toNat < 0xE0)
    (h₁ : isTail b₁) (rest : Bytes) :
    decodeOne b (b₁ :: rest) = .char (Char.ofNat (b.toNat % 32 * 64 + tailBits b₁)) 2 := by
  simp only [decodeOne, UInt8.lt_iff_toNat_lt, UInt8.reduceToNat]
  rw [if_neg (by omega), if_neg (by omega), if_pos high, if_pos h₁]

theorem decodeOne_three {b b₁ b₂ : UInt8} (low : 0xE0 ≤ b.toNat) (high : b.toNat < 0xF0)
    (h₁ : (secondBounds b).1 ≤ b₁ ∧ b₁ ≤ (secondBounds b).2) (h₂ : isTail b₂) (rest : Bytes) :
    decodeOne b (b₁ :: b₂ :: rest) =
      .char (Char.ofNat ((b.toNat % 16 * 64 + tailBits b₁) * 64 + tailBits b₂)) 3 := by
  simp only [decodeOne, UInt8.lt_iff_toNat_lt, UInt8.reduceToNat]
  rw [if_neg (by omega), if_neg (by omega), if_neg (by omega), if_pos (by omega),
    if_pos (by simpa using h₁), if_pos h₂, if_pos high]

theorem decodeOne_four {b b₁ b₂ b₃ : UInt8} (low : 0xF0 ≤ b.toNat) (high : b.toNat < 0xF5)
    (h₁ : (secondBounds b).1 ≤ b₁ ∧ b₁ ≤ (secondBounds b).2) (h₂ : isTail b₂) (h₃ : isTail b₃)
    (rest : Bytes) :
    decodeOne b (b₁ :: b₂ :: b₃ :: rest) = .char (Char.ofNat
      (((b.toNat % 8 * 64 + tailBits b₁) * 64 + tailBits b₂) * 64 + tailBits b₃)) 4 := by
  simp only [decodeOne, UInt8.lt_iff_toNat_lt, UInt8.reduceToNat]
  rw [if_neg (by omega), if_neg (by omega), if_neg (by omega), if_pos high,
    if_pos (by simpa using h₁), if_pos h₂, if_neg (by omega), if_pos h₃]

/-- How many tails follow the first byte of a letter. -/
def tailCount (b : UInt8) : Nat :=
  if b.toNat < 0x80 then 0 else if b.toNat < 0xE0 then 1 else if b.toNat < 0xF0 then 2 else 3

/-- A letter is written by a first byte, which tells how many tails follow, and these tails. It is
read from them, whatever comes next. -/
structure IsLetter (c : Char) (b : UInt8) (tails : Bytes) : Prop where
  bytes : encodeChar c = b :: tails
  first : ¬isTail b
  tail : ∀ t ∈ tails, isTail t
  length : tails.length = tailCount b
  read : ∀ rest, decodeOne b (tails ++ rest) = .char c (tails.length + 1)

theorem exists_byte {n : Nat} (h : n < 256) : ∃ b : UInt8, UInt8.ofNat n = b ∧ b.toNat = n :=
  ⟨_, rfl, UInt8.toNat_ofNat_of_lt' h⟩

section Writing

variable {c : Char}

theorem ofNat_eq {n : Nat} (h : n = c.toNat) : Char.ofNat n = c := h ▸ Char.ofNat_toNat c

theorem exists_isLetter_one (high : c.toNat < 0x80) : ∃ b, IsLetter c b [] := by
  obtain ⟨b, hb, hn⟩ := exists_byte (n := c.toNat) (by omega)
  refine ⟨b, ⟨?_, ?_, by simp, ?_, fun rest => ?_⟩⟩
  · simp [encodeChar, high, hb]
  · rw [isTail_iff]
    omega
  · simp [tailCount, hn, high]
  · simp [decodeOne, UInt8.lt_iff_toNat_lt, hn, high]

theorem exists_isLetter_two (low : ¬c.toNat < 0x80) (high : c.toNat < 0x800) :
    ∃ b b₁, IsLetter c b [b₁] := by
  obtain ⟨b, hb, hn⟩ := exists_byte (n := 0xC0 + c.toNat / 64) (by omega)
  obtain ⟨b₁, hb₁, hn₁⟩ := exists_byte (n := 0x80 + c.toNat % 64) (by omega)
  have h₁ : isTail b₁ := isTail_iff.2 (by omega)
  refine ⟨b, b₁, ⟨?_, ?_, by simpa using h₁, ?_, fun rest => ?_⟩⟩
  · simp [encodeChar, low, high, hb, hb₁]
  · rw [isTail_iff]
    omega
  · rw [tailCount, if_neg (by omega), if_pos (by omega)]
    rfl
  · exact (decodeOne_two (by omega) (by omega) h₁ rest).trans
      (congrArg (Decoded.char · 2) (ofNat_eq (by unfold tailBits; omega)))

/-- The numbers between 0xD7FF and 0xE000 are no letters. -/
theorem exists_isLetter_three (low : ¬c.toNat < 0x800) (high : c.toNat < 0x10000) :
    ∃ b b₁ b₂, IsLetter c b [b₁, b₂] := by
  have hvalid : c.toNat < 0xD800 ∨ 0xDFFF < c.toNat ∧ c.toNat < 0x110000 := c.valid
  obtain ⟨b, hb, hn⟩ := exists_byte (n := 0xE0 + c.toNat / 4096) (by omega)
  obtain ⟨b₁, hb₁, hn₁⟩ := exists_byte (n := 0x80 + c.toNat / 64 % 64) (by omega)
  obtain ⟨b₂, hb₂, hn₂⟩ := exists_byte (n := 0x80 + c.toNat % 64) (by omega)
  have h₁ : isTail b₁ := isTail_iff.2 (by omega)
  have h₂ : isTail b₂ := isTail_iff.2 (by omega)
  refine ⟨b, b₁, b₂, ⟨?_, ?_, by simp [h₁, h₂], ?_, fun rest => ?_⟩⟩
  · simp only [encodeChar]
    rw [if_neg (by omega), if_neg low, if_pos high, hb, hb₁, hb₂]
  · rw [isTail_iff]
    omega
  · rw [tailCount, if_neg (by omega), if_neg (by omega), if_pos (by omega)]
    rfl
  · exact (decodeOne_three (by omega) (by omega) (secondBounds_iff.2 (by omega)) h₂ rest).trans
      (congrArg (Decoded.char · 3) (ofNat_eq (by unfold tailBits; omega)))

theorem exists_isLetter_four (low : ¬c.toNat < 0x10000) :
    ∃ b b₁ b₂ b₃, IsLetter c b [b₁, b₂, b₃] := by
  have hvalid : c.toNat < 0xD800 ∨ 0xDFFF < c.toNat ∧ c.toNat < 0x110000 := c.valid
  obtain ⟨b, hb, hn⟩ := exists_byte (n := 0xF0 + c.toNat / 262144) (by omega)
  obtain ⟨b₁, hb₁, hn₁⟩ := exists_byte (n := 0x80 + c.toNat / 4096 % 64) (by omega)
  obtain ⟨b₂, hb₂, hn₂⟩ := exists_byte (n := 0x80 + c.toNat / 64 % 64) (by omega)
  obtain ⟨b₃, hb₃, hn₃⟩ := exists_byte (n := 0x80 + c.toNat % 64) (by omega)
  have h₁ : isTail b₁ := isTail_iff.2 (by omega)
  have h₂ : isTail b₂ := isTail_iff.2 (by omega)
  have h₃ : isTail b₃ := isTail_iff.2 (by omega)
  refine ⟨b, b₁, b₂, b₃, ⟨?_, ?_, by simp [h₁, h₂, h₃], ?_, fun rest => ?_⟩⟩
  · simp only [encodeChar]
    rw [if_neg (by omega), if_neg (by omega), if_neg low, hb, hb₁, hb₂, hb₃]
  · rw [isTail_iff]
    omega
  · rw [tailCount, if_neg (by omega), if_neg (by omega), if_neg (by omega)]
    rfl
  · exact (decodeOne_four (by omega) (by omega) (secondBounds_iff.2 (by omega)) h₂ h₃ rest).trans
      (congrArg (Decoded.char · 4) (ofNat_eq (by unfold tailBits; omega)))

end Writing

theorem exists_isLetter (c : Char) : ∃ b tails, IsLetter c b tails := by
  by_cases h80 : c.toNat < 0x80
  · obtain ⟨b, h⟩ := exists_isLetter_one h80
    exact ⟨b, _, h⟩
  by_cases h800 : c.toNat < 0x800
  · obtain ⟨b, _, h⟩ := exists_isLetter_two h80 h800
    exact ⟨b, _, h⟩
  by_cases h10000 : c.toNat < 0x10000
  · obtain ⟨b, _, _, h⟩ := exists_isLetter_three h800 h10000
    exact ⟨b, _, h⟩
  · obtain ⟨b, _, _, _, h⟩ := exists_isLetter_four h10000
    exact ⟨b, _, h⟩

/-! ### Text -/

section Reading

variable {bs as : Bytes}

@[simp] theorem encodeChars_nil : encodeChars [] = [] := rfl

@[simp] theorem encodeChars_cons (c : Char) (cs : List Char) :
    encodeChars (c :: cs) = encodeChar c ++ encodeChars cs := List.flatMap_cons

@[simp] theorem encodeChars_append (cs ds : List Char) :
    encodeChars (cs ++ ds) = encodeChars cs ++ encodeChars ds := List.flatMap_append

@[simp] theorem decodeLossyChars_nil : decodeLossyChars [] = [] := by
  rw [decodeLossyChars]

theorem decodeLossyChars_of_char {b : UInt8} {rest : Bytes} {c : Char} {n : Nat}
    (h : decodeOne b rest = .char c n) :
    decodeLossyChars (b :: rest) = c :: decodeLossyChars (rest.drop (n - 1)) := by
  rw [decodeLossyChars, h]
  rfl

theorem decodeLossyChars_of_invalid {b : UInt8} {rest : Bytes} {n : Nat}
    (h : decodeOne b rest = .invalid n) :
    decodeLossyChars (b :: rest) =
      replacementChar :: decodeLossyChars (rest.drop (n - 1)) := by
  rw [decodeLossyChars, h]
  rfl

/-- The bytes of letters are read as these letters, whatever comes after them. -/
theorem decodeLossyChars_encodeChars_append (cs : List Char) (bs : Bytes) :
    decodeLossyChars (encodeChars cs ++ bs) = cs ++ decodeLossyChars bs := by
  induction cs with
  | nil => rfl
  | cons c cs ih =>
    obtain ⟨b, tails, h⟩ := exists_isLetter c
    have hbytes : encodeChars (c :: cs) ++ bs = b :: (tails ++ (encodeChars cs ++ bs)) := by
      rw [encodeChars_cons, h.bytes, List.append_assoc, List.cons_append]
    rw [hbytes, decodeLossyChars_of_char (h.read _), Nat.add_sub_cancel, List.drop_left, ih,
      List.cons_append]

theorem decodeLossyChars_encodeChars (cs : List Char) :
    decodeLossyChars (encodeChars cs) = cs := by
  simpa using decodeLossyChars_encodeChars_append cs []

/-- The bytes of some letters. -/
def IsText (bs : Bytes) : Prop := ∃ cs, encodeChars cs = bs

theorem isText_nil : IsText [] := ⟨[], rfl⟩

theorem isText_iff : IsText bs ↔ encodeChars (decodeLossyChars bs) = bs := by
  constructor
  · rintro ⟨cs, rfl⟩
    rw [decodeLossyChars_encodeChars]
  · exact fun h => ⟨_, h⟩

/-- What follows some text decides whether the whole is text. -/
theorem IsText.append_iff (h : IsText as) : IsText (as ++ bs) ↔ IsText bs := by
  obtain ⟨cs, rfl⟩ := h
  rw [isText_iff, isText_iff, decodeLossyChars_encodeChars_append, encodeChars_append,
    List.append_cancel_left_eq]

/-- The reading goes on after a letter, and there is text from it on if there is after it. -/
theorem isText_cons_of_char {b : UInt8} {rest : Bytes} {c : Char} {n : Nat}
    (h : decodeOne b rest = .char c n) : IsText (b :: rest) ↔ IsText (rest.drop (n - 1)) := by
  have hletter : IsText (encodeChar c) := ⟨[c], List.append_nil _⟩
  rw [← encodeChar_of_decodeOne h, hletter.append_iff]

/-- Text starts with a letter. -/
theorem IsText.exists_letter {b : UInt8} {rest : Bytes} (h : IsText (b :: rest)) :
    ∃ c tails more, IsLetter c b tails ∧ rest = tails ++ encodeChars more := by
  obtain ⟨_ | ⟨c, more⟩, hcs⟩ := h
  · cases hcs
  · obtain ⟨b', tails, hletter⟩ := exists_isLetter c
    rw [encodeChars_cons, hletter.bytes, List.cons_append, List.cons.injEq] at hcs
    obtain ⟨rfl, rfl⟩ := hcs
    exact ⟨c, tails, more, hletter, rfl⟩

theorem not_isText_of_invalid {b : UInt8} {rest : Bytes} {n : Nat}
    (h : decodeOne b rest = .invalid n) : ¬IsText (b :: rest) := by
  intro htext
  obtain ⟨c, tails, more, hletter, rfl⟩ := htext.exists_letter
  cases h.symm.trans (hletter.read _)

/-- The strict reading accepts text, and nothing else. -/
theorem isSome_decodeStrict : (decodeStrict bs).isSome ↔ IsText bs := by
  rw [decodeStrict, Option.isSome_map]
  induction bs using decodeStrictChars.induct with
  | case1 => simp [decodeStrictChars, isText_nil]
  | case2 b rest c n h ih => simp [decodeStrictChars, h, ih, isText_cons_of_char h]
  | case3 b rest n h => simp [decodeStrictChars, h, not_isText_of_invalid h]

/-- What is no text has a part that is no letter. -/
theorem replacementChar_mem (h : ¬IsText bs) : replacementChar ∈ decodeLossyChars bs := by
  induction bs using decodeLossyChars.induct with
  | case1 => exact absurd isText_nil h
  | case2 b rest step ih =>
    cases hstep : decodeOne b rest with
    | invalid n => simp [decodeLossyChars_of_invalid hstep]
    | char c n =>
      have hrest : ¬IsText (rest.drop (n - 1)) := by rwa [← isText_cons_of_char hstep]
      rw [decodeLossyChars_of_char hstep]
      simp only [step, hstep] at ih
      exact List.mem_cons_of_mem _ (ih hrest)

/-! ### What a reading makes of no text -/

/-- The bytes that are not the first of a letter of four. -/
def lowCount (bs : Bytes) : Nat := bs.countP (·.toNat < 0xF0)

@[simp] theorem lowCount_append (as bs : Bytes) :
    lowCount (as ++ bs) = lowCount as + lowCount bs := List.countP_append

/-- A part that is no letter has fewer of these bytes than the replacement character. Its length
may be the same: three bytes that start a letter of four. -/
theorem lowCount_take_of_invalid {b : UInt8} {rest : Bytes} {n : Nat}
    (h : decodeOne b rest = .invalid n) :
    lowCount (b :: rest.take (n - 1)) < lowCount (encodeChar replacementChar) := by
  have hthree : lowCount (encodeChar replacementChar) = 3 := by decide
  have hfront := front_decodeOne b rest
  rw [h] at hfront
  cases hfront with
  | invalid hn =>
    have htake := List.countP_le_length (l := rest.take (n - 1)) (p := (·.toNat < 0xF0))
    rw [List.length_take] at htake
    rw [hthree, lowCount, List.countP_cons]
    split
    · next hlow =>
      have hlow' : b.toNat < 0xF0 := by simpa using hlow
      omega
    · omega

/-- Written out again, what has been read of no text has more of these bytes. -/
theorem lowCount_lt (h : ¬IsText bs) :
    lowCount bs < lowCount (encodeChars (decodeLossyChars bs)) := by
  induction bs using decodeLossyChars.induct with
  | case1 => exact absurd isText_nil h
  | case2 b rest step ih =>
    cases hstep : decodeOne b rest with
    | char c n =>
      have hrest : ¬IsText (rest.drop (n - 1)) := by rwa [← isText_cons_of_char hstep]
      simp only [step, hstep] at ih
      have hlt := ih hrest
      rw [decodeLossyChars_of_char hstep, encodeChars_cons, lowCount_append,
        ← encodeChar_of_decodeOne hstep, lowCount_append]
      simp only [Decoded.length] at hlt
      omega
    | invalid n =>
      have hpart := lowCount_take_of_invalid hstep
      have hcut : lowCount (b :: rest) =
          lowCount (b :: rest.take (n - 1)) + lowCount (rest.drop (n - 1)) := by
        rw [← lowCount_append, List.cons_append, List.take_append_drop]
      have hle : lowCount (rest.drop (n - 1)) ≤
          lowCount (encodeChars (decodeLossyChars (rest.drop (n - 1)))) := by
        by_cases hrest : IsText (rest.drop (n - 1))
        · exact Nat.le_of_eq (congrArg lowCount (isText_iff.1 hrest)).symm
        · simp only [step, hstep] at ih
          exact Nat.le_of_lt (ih hrest)
      rw [decodeLossyChars_of_invalid hstep, encodeChars_cons, lowCount_append]
      omega

theorem encodeChars_perm {cs ds : List Char} (h : cs.Perm ds) :
    (encodeChars cs).Perm (encodeChars ds) :=
  h.flatMap_right _

/-- Bytes are text if writing what has been read of them takes the same bytes, in some order. -/
theorem isText_of_perm (h : (encodeChars (decodeLossyChars bs)).Perm bs) : IsText bs := by
  by_contra hno
  exact Nat.ne_of_gt (lowCount_lt hno) (h.countP_eq _)

/-! ### Letters cut in two -/

/-- The first bytes of a letter, but not all of them. -/
def IsPiece (p : Bytes) : Prop := p ≠ [] ∧ ∃ c q, q ≠ [] ∧ encodeChar c = p ++ q

/-- What text starts with is text, or text and a piece of a letter. -/
theorem exists_piece {t rest : Bytes} (h : IsText (t ++ rest)) :
    ∃ more p, t = encodeChars more ++ p ∧ (p = [] ∨ IsPiece p) := by
  obtain ⟨cs, hcs⟩ := h
  induction cs generalizing t with
  | nil =>
    have ht : t = [] := (List.append_eq_nil_iff.1 hcs.symm).1
    exact ⟨[], [], ht, .inl rfl⟩
  | cons c cs ih =>
    rw [encodeChars_cons, List.append_eq_append_iff] at hcs
    rcases hcs with ⟨t', rfl, ht'⟩ | ⟨q, hq, -⟩
    · obtain ⟨more, p, rfl, hp⟩ := ih ht'
      exact ⟨c :: more, p, by simp, hp⟩
    · by_cases hnil : t = []
      · exact ⟨[], [], hnil, .inl rfl⟩
      by_cases hall : q = []
      · subst hall
        exact ⟨[c], [], by simpa using hq.symm, .inl rfl⟩
      · exact ⟨[], t, rfl, .inr ⟨hnil, c, q, hall, hq⟩⟩

/-- A piece of a letter is completed by tails only. -/
theorem IsPiece.not_isText {p rest : Bytes} {b : UInt8} (h : IsPiece p) (hb : ¬isTail b) :
    ¬IsText (p ++ b :: rest) := by
  obtain ⟨hp, c, q, hq, hpq⟩ := h
  obtain ⟨first, tails, hletter⟩ := exists_isLetter c
  cases p with
  | nil => exact absurd rfl hp
  | cons p₀ p =>
    rw [hletter.bytes, List.cons_append, List.cons.injEq] at hpq
    obtain ⟨rfl, rfl⟩ := hpq
    intro htext
    obtain ⟨c', tails, more, hletter', hmore⟩ := htext.exists_letter
    -- Both letters have the same first byte, so as many tails.
    have hlength : tails.length = p.length + q.length := by
      rw [hletter'.length, ← hletter.length, List.length_append]
    have hpos := List.length_pos_iff.2 hq
    rcases List.append_eq_append_iff.1 hmore with ⟨ts, rfl, hts⟩ | ⟨ts, rfl, -⟩
    · rw [List.length_append] at hlength
      obtain ⟨t, ts, rfl⟩ := List.exists_cons_of_ne_nil (List.length_pos_iff.1
        (by omega : 0 < ts.length))
      obtain ⟨rfl, -⟩ := List.cons.inj hts
      exact hb (hletter'.tail b (by simp))
    · rw [List.length_append] at hlength
      omega

end Reading

end ComposeHarness.Text
