/-!
# Texts cut at byte offsets

The offsets of a text count the bytes of its encoding. A text can be cut at an offset only between
two of its characters, so cutting it anywhere else gives nothing.
-/
namespace ComposeHarness.Text

/-- The number of bytes that encode a text. -/
def byteLength : List Char → Nat
  | [] => 0
  | c :: rest => c.utf8Size + byteLength rest

@[simp] theorem byteLength_nil : byteLength [] = 0 := rfl

@[simp] theorem byteLength_cons (c : Char) (rest : List Char) :
    byteLength (c :: rest) = c.utf8Size + byteLength rest := rfl

@[simp] theorem byteLength_append (front back : List Char) :
    byteLength (front ++ back) = byteLength front + byteLength back := by
  induction front with
  | nil => simp
  | cons c front ih => simp [ih, Nat.add_assoc]

/-- The parts of a text before and behind an offset, or none if it is not between characters. -/
def splitAt? (offset : Nat) : List Char → Option (List Char × List Char)
  | [] => if offset = 0 then some ([], []) else none
  | c :: rest =>
    if offset = 0 then some ([], c :: rest)
    else if c.utf8Size ≤ offset then
      (splitAt? (offset - c.utf8Size) rest).map fun (front, back) => (c :: front, back)
    else none

def takeBytes? (offset : Nat) (text : List Char) : Option (List Char) :=
  (splitAt? offset text).map Prod.fst

def dropBytes? (offset : Nat) (text : List Char) : Option (List Char) :=
  (splitAt? offset text).map Prod.snd

theorem splitAt?_byteLength (front back : List Char) :
    splitAt? (byteLength front) (front ++ back) = some (front, back) := by
  induction front with
  | nil => cases back <;> simp [splitAt?]
  | cons c front ih =>
    have := c.utf8Size_pos
    simp [splitAt?, ih, show c.utf8Size ≠ 0 by omega]

/-- A cut loses nothing, and the part before it has as many bytes as the offset says. -/
theorem eq_of_splitAt? {offset : Nat} {text front back : List Char}
    (h : splitAt? offset text = some (front, back)) :
    text = front ++ back ∧ byteLength front = offset := by
  induction text generalizing offset front with
  | nil =>
    unfold splitAt? at h
    split at h
    · cases h
      simp_all
    · cases h
  | cons c rest ih =>
    unfold splitAt? at h
    split at h
    · cases h
      simp_all
    · split at h
      · next hle =>
        obtain ⟨⟨inner, tail⟩, hsplit, heq⟩ := Option.map_eq_some_iff.1 h
        cases heq
        obtain ⟨rfl, hlength⟩ := ih hsplit
        exact ⟨rfl, by simp; omega⟩
      · cases h

/-- A text can be cut exactly where a first part of it ends. -/
theorem splitAt?_eq_some_iff {offset : Nat} {text front back : List Char} :
    splitAt? offset text = some (front, back) ↔
      text = front ++ back ∧ byteLength front = offset := by
  refine ⟨eq_of_splitAt?, ?_⟩
  rintro ⟨rfl, rfl⟩
  exact splitAt?_byteLength front back

theorem takeBytes?_byteLength (front back : List Char) :
    takeBytes? (byteLength front) (front ++ back) = some front := by
  rw [takeBytes?, splitAt?_eq_some_iff.2 ⟨rfl, rfl⟩]
  rfl

theorem dropBytes?_byteLength (front back : List Char) :
    dropBytes? (byteLength front) (front ++ back) = some back := by
  rw [dropBytes?, splitAt?_eq_some_iff.2 ⟨rfl, rfl⟩]
  rfl

/-- Behind a character of one byte the text can be cut as well. -/
theorem dropBytes?_succ {c : Char} (h : c.utf8Size = 1) (front back : List Char) :
    dropBytes? (byteLength front + 1) (front ++ c :: back) = some back := by
  have hcut := dropBytes?_byteLength (front ++ [c]) back
  simpa [h] using hcut

/-- The offset of the first occurrence of a character. -/
def findByte? (c : Char) : List Char → Option Nat
  | [] => none
  | d :: rest => if d = c then some 0 else (findByte? c rest).map (d.utf8Size + ·)

theorem findByte?_of_not_mem {c : Char} {text : List Char} (h : c ∉ text) :
    findByte? c text = none := by
  induction text with
  | nil => rfl
  | cons d rest ih =>
    simp only [List.mem_cons, not_or] at h
    simp [findByte?, Ne.symm h.1, ih h.2]

/-- The character is found behind the part that does not have it. -/
theorem findByte?_append {c : Char} {front : List Char} (h : c ∉ front) (back : List Char) :
    findByte? c (front ++ c :: back) = some (byteLength front) := by
  induction front with
  | nil => simp [findByte?]
  | cons d front ih =>
    simp only [List.mem_cons, not_or] at h
    simp [findByte?, Ne.symm h.1, ih h.2]

end ComposeHarness.Text
