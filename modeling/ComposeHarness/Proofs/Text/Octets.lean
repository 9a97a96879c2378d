import ComposeHarness.Proofs.Text.Letters
import ComposeHarness.Text.Octets

/-!
# Texts written in bytes

Texts are written in bytes letter by letter, and different texts in different ways. A letter below
0x80 is written as itself, and its byte is a part of no other letter.
-/
namespace ComposeHarness.Text.Octets

variable {a b s : String} {c d : Char}

@[simp] theorem ofText_append (a b : String) : ofText (a ++ b) = ofText a ++ ofText b := by
  simp [ofText, ofBytes, encode]

/-- A text is got back from its bytes. -/
@[simp] theorem toText_ofText (s : String) : toText (ofText s) = s := by
  simp [toText, ofText, encode, decodeLossy, decodeLossyChars_encodeChars]

theorem ofText_inj : ofText a = ofText b ↔ a = b := by
  constructor
  · intro h
    rw [← toText_ofText a, h, toText_ofText]
  · exact congrArg ofText

@[simp] theorem ofText_eq_empty_iff : ofText s = "" ↔ s = "" := ofText_inj (b := "")

/-- The bytes of a letter above 0x7F are above it, too. -/
theorem le_of_mem_encodeChar {byte : UInt8} (high : 0x80 ≤ d.toNat) (h : byte ∈ encodeChar d) :
    0x80 ≤ byte.toNat := by
  obtain ⟨first, tails, letter⟩ := exists_isLetter d
  rw [letter.bytes] at h
  rcases List.mem_cons.1 h with rfl | htail
  · refine Nat.le_of_not_lt fun hlow => ?_
    have hread := letter.read []
    rw [decodeOne.eq_def, if_pos (UInt8.lt_iff_toNat_lt.2 hlow)] at hread
    rw [← (Decoded.char.inj hread).1, toNat_charOfNat (by omega)] at high
    omega
  · exact (isTail_iff.1 (letter.tail _ htail)).1

theorem mem_ofText_iff (low : c.toNat < 0x80) : c ∈ (ofText s).toList ↔ c ∈ s.toList := by
  have hbytes : c ∈ (ofText s).toList ↔
      ∃ d ∈ s.toList, ∃ byte ∈ encodeChar d, Char.ofNat byte.toNat = c := by
    simp only [ofText, ofBytes, encode, encodeChars, String.toList_ofList, List.mem_map,
      List.mem_flatMap]
    grind
  have hsingle : ∀ d : Char, d.toNat < 0x80 → encodeChar d = [UInt8.ofNat d.toNat] :=
    fun d hd => by simp [encodeChar, hd]
  have hself : ∀ d : Char, d.toNat < 0x80 → Char.ofNat (UInt8.ofNat d.toNat).toNat = d := by
    intro d hd
    obtain ⟨byte, hbyte, hn⟩ := exists_byte (Nat.lt_trans hd (by decide : 0x80 < 256))
    rw [hbyte, hn, Char.ofNat_toNat]
  rw [hbytes]
  constructor
  · rintro ⟨d, hd, byte, hbyte, rfl⟩
    have hlow : d.toNat < 0x80 := by
      refine Nat.lt_of_not_le fun high => ?_
      have hle := le_of_mem_encodeChar high hbyte
      rw [toNat_charOfNat byte.toNat_lt] at low
      omega
    rw [hsingle d hlow, List.mem_singleton] at hbyte
    rwa [hbyte, hself d hlow]
  · intro hc
    exact ⟨c, hc, _, by simp [hsingle c low], hself c low⟩

end ComposeHarness.Text.Octets
