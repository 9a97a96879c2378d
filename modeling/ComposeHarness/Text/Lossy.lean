/-!
# Bytes read as UTF-8

`decodeOne` takes one character, or the longest start of one that no byte can complete, off the
front of a byte sequence. Reading strictly refuses the second case; reading with replacement puts
one U+FFFD in its place.
-/
namespace ComposeHarness.Text

abbrev Bytes := List UInt8

/-- A first step of a reading: a character, or a part that is no character. -/
inductive Decoded where
  | char (c : Char) (length : Nat)
  | invalid (length : Nat)
  deriving Repr, DecidableEq

/-- A byte that continues a character. -/
def isTail (b : UInt8) : Bool := 0x80 ≤ b && b ≤ 0xBF

/-- The least and the greatest second byte after a first byte of three or four. -/
def secondBounds (b : UInt8) : UInt8 × UInt8 :=
  if b == 0xE0 then (0xA0, 0xBF)
  else if b == 0xED then (0x80, 0x9F)
  else if b == 0xF0 then (0x90, 0xBF)
  else if b == 0xF4 then (0x80, 0x8F)
  else (0x80, 0xBF)

def tailBits (b : UInt8) : Nat := b.toNat % 64

/-- The first character of a sequence that starts with `b`, or its longest invalid start: the
first byte and those after it that a valid character could still have had there. -/
def decodeOne (b : UInt8) (rest : Bytes) : Decoded :=
  if b < 0x80 then .char (Char.ofNat b.toNat) 1
  else if b < 0xC2 then .invalid 1
  else if b < 0xE0 then
    match rest with
    | b1 :: _ =>
      if isTail b1 then .char (Char.ofNat (b.toNat % 32 * 64 + tailBits b1)) 2 else .invalid 1
    | [] => .invalid 1
  else if b < 0xF5 then
    let (lo, hi) := secondBounds b
    match rest with
    | b1 :: more =>
      if lo ≤ b1 && b1 ≤ hi then
        match more with
        | b2 :: more2 =>
          if isTail b2 then
            if b < 0xF0 then
              .char (Char.ofNat ((b.toNat % 16 * 64 + tailBits b1) * 64 + tailBits b2)) 3
            else
              match more2 with
              | b3 :: _ =>
                if isTail b3 then
                  .char (Char.ofNat
                    (((b.toNat % 8 * 64 + tailBits b1) * 64 + tailBits b2) * 64 + tailBits b3)) 4
                else .invalid 3
              | [] => .invalid 3
          else .invalid 2
        | [] => .invalid 2
      else .invalid 1
    | [] => .invalid 1
  else .invalid 1

/-- How many bytes the step takes off the front. -/
def Decoded.length : Decoded → Nat
  | .char _ n => n
  | .invalid n => n

/-- What a part that is no character becomes. -/
def replacementChar : Char := '\uFFFD'

def decodeLossyChars : Bytes → List Char
  | [] => []
  | b :: rest =>
    let step := decodeOne b rest
    let c := match step with
      | .char c _ => c
      | .invalid _ => replacementChar
    c :: decodeLossyChars (rest.drop (step.length - 1))
termination_by bs => bs.length
decreasing_by
  simp only [List.length_drop, List.length_cons]
  omega

/-- Reads bytes as text; each maximal part that is no character becomes one U+FFFD. -/
def decodeLossy (bs : Bytes) : String := String.ofList (decodeLossyChars bs)

def decodeStrictChars : Bytes → Option (List Char)
  | [] => some []
  | b :: rest =>
    match decodeOne b rest with
    | .char c n => (decodeStrictChars (rest.drop (n - 1))).map (c :: ·)
    | .invalid _ => none
termination_by bs => bs.length
decreasing_by
  simp only [List.length_drop, List.length_cons]
  omega

/-- Reads bytes as text, if they are valid throughout. -/
def decodeStrict (bs : Bytes) : Option String := (decodeStrictChars bs).map String.ofList

/-- The bytes of one character. -/
def encodeChar (c : Char) : Bytes :=
  let n := c.toNat
  if n < 0x80 then [UInt8.ofNat n]
  else if n < 0x800 then [UInt8.ofNat (0xC0 + n / 64), UInt8.ofNat (0x80 + n % 64)]
  else if n < 0x10000 then
    [UInt8.ofNat (0xE0 + n / 4096), UInt8.ofNat (0x80 + n / 64 % 64), UInt8.ofNat (0x80 + n % 64)]
  else
    [UInt8.ofNat (0xF0 + n / 262144), UInt8.ofNat (0x80 + n / 4096 % 64),
      UInt8.ofNat (0x80 + n / 64 % 64), UInt8.ofNat (0x80 + n % 64)]

def encodeChars (cs : List Char) : Bytes := cs.flatMap encodeChar

def encode (s : String) : Bytes := encodeChars s.toList

end ComposeHarness.Text
