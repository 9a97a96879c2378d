import ComposeHarness.Text.Lossy

/-!
# Texts of bytes

Names and texts that only ever were bytes are kept as texts too: each character stands for the byte
with its code. Such a text has one character for every byte, whatever the bytes mean.
-/
namespace ComposeHarness.Text.Octets

def ofBytes (bs : Bytes) : String := String.ofList (bs.map fun b => Char.ofNat b.toNat)

def bytes (s : String) : Bytes := s.toList.map fun c => UInt8.ofNat c.toNat

/-- The bytes that write a text, as a text of bytes. -/
def ofText (s : String) : String := ofBytes (encode s)

/-- The text that bytes write, as far as they write one. -/
def toText (s : String) : String := decodeLossy (bytes s)

theorem toNat_charOfNat {n : Nat} (h : n < 256) : (Char.ofNat n).toNat = n := by
  have hv : n.isValidChar := .inl (by omega)
  rw [Char.ofNat, dif_pos hv]
  rfl

/-- Nothing is lost in a text of bytes. -/
@[simp] theorem bytes_ofBytes (bs : Bytes) : bytes (ofBytes bs) = bs := by
  have h : ∀ b : UInt8, UInt8.ofNat (Char.ofNat b.toNat).toNat = b := fun b => by
    rw [toNat_charOfNat b.toNat_lt]
    exact UInt8.ofNat_toNat
  simp [bytes, ofBytes, Function.comp_def, h]

example : (ofText "é").length = 2 ∧ toText (ofText "é") = "é" := by decide +kernel

end ComposeHarness.Text.Octets
