import ComposeHarness.Json.Value
import ComposeHarness.Text.Digits

/-!
# Reading JSON

A document is one value with blanks around it. Every reading function takes the text that is left
and gives back what follows its part.
-/
namespace ComposeHarness.Json

abbrev Reading (α : Type) := Except String (α × List Char)

def isBlank (c : Char) : Bool := c == ' ' || c == '\n' || c == '\t' || c == '\r'

def skipBlank (cs : List Char) : List Char := cs.dropWhile isBlank

/-- Takes a fixed word off the text. -/
def word : (letters cs : List Char) → Except String (List Char)
  | [], cs => .ok cs
  | a :: as, c :: cs => if a == c then word as cs else .error "expected value"
  | _ :: _, [] => .error "unexpected end"

/-! ### Numbers -/

/-- The digits at the front of a text and what follows them. -/
def digits (cs : List Char) : List Char × List Char :=
  (cs.takeWhile Char.isDigit, cs.dropWhile Char.isDigit)

/-- Digits are counted into a number as long as 64 bits hold it. Gives the number, how many digits
went into it, and how many were left over. -/
def countDigits (start : Nat) : List Char → Nat × Nat × Nat
  | [] => (start, 0, 0)
  | c :: cs =>
    let n := start * 10 + (c.toNat - '0'.toNat)
    if n < Nat.pow 2 64 then
      let (n, used, left) := countDigits n cs
      (n, used + 1, left)
    else (start, 0, cs.length + 1)

/-- The nearest number that 53 binary digits and zeros after them make; a tie goes to the even
one. -/
def nearest53 (n : Nat) : Nat :=
  if n < Nat.pow 2 53 then n
  else
    let unit := Nat.pow 2 (Nat.log2 n - 52)
    let (q, r) := (n / unit, n % unit)
    (if unit < 2 * r || (2 * r == unit && q % 2 == 1) then q + 1 else q) * unit

/-- Whether `n` times ten to the power of `exponent` stays finite as a binary fraction, where first
both factors are rounded and then their product. -/
def staysFinite (n : Nat) (exponent : Int) : Bool :=
  n == 0 || exponent ≤ 0 ||
    (exponent ≤ 308 &&
      -- the least number that rounds to an infinity
      decide (nearest53 n * nearest53 (Nat.pow 10 exponent.toNat) < Nat.pow 2 1024 - Nat.pow 2 970))

/-- The greatest exponent that is taken for what it is. -/
def exponentLimit : Nat := Nat.pow 2 31 - 1

/-- A number with a fraction or an exponent, or one that 64 bits cannot hold: `whole` and `places`
are its digits. -/
def fractionOf (whole places : List Char) (exponent : Int) : Number :=
  let (n, _, skipped) := countDigits 0 whole
  let (n, used, _) := countDigits n places
  if n != 0 && (exponentLimit : Int) < exponent then .outOfRange
  else if staysFinite n (skipped - used + exponent) then .float
  else .outOfRange

/-- What a number is by its parts: the sign, the digits before the point and after it, and the power
of ten. -/
def numberOf (negative : Bool) (whole : List Char) (fraction : Option (List Char))
    (exponent : Option Int) : Number :=
  match fraction, exponent with
  | none, none =>
    let n := Text.numeral 10 whole
    if negative then
      if n = 0 then .float
      else if n ≤ Nat.pow 2 63 then .int (-n)
      else fractionOf whole [] 0
    else if n < Nat.pow 2 64 then .int n
    else fractionOf whole [] 0
  | _, _ => fractionOf whole (fraction.getD []) (exponent.getD 0)

/-- Takes a minus sign off the text. -/
def takeMinus : List Char → Bool × List Char
  | '-' :: rest => (true, rest)
  | cs => (false, cs)

/-- The digits after a point, if there is one. -/
def takeFraction : List Char → Reading (Option (List Char))
  | '.' :: rest =>
    let (places, rest) := digits rest
    if places.isEmpty then .error "invalid number" else .ok (some places, rest)
  | cs => .ok (none, cs)

/-- The power of ten, if there is one. -/
def takeExponent : List Char → Reading (Option Int)
  | [] => .ok (none, [])
  | e :: rest =>
    if e == 'e' || e == 'E' then
      let (minus, rest) := Text.splitSign rest
      let (power, rest) := digits rest
      if power.isEmpty then .error "invalid number"
      else
        let n : Int := Text.numeral 10 power
        .ok (some (if minus then -n else n), rest)
    else .ok (none, e :: rest)

/-- A number; the text starts at its sign or first digit. -/
def number (cs : List Char) : Except String (Number × List Char) := do
  let (negative, cs) := takeMinus cs
  let (whole, cs) := digits cs
  if whole.isEmpty || (whole.head? == some '0' && whole.length != 1) then .error "invalid number"
  else
    let (fraction, cs) ← takeFraction cs
    let (exponent, cs) ← takeExponent cs
    .ok (numberOf negative whole fraction exponent, cs)

/-! ### Texts -/

/-- The value of four hexadecimal digits, and what follows them. -/
def hex4 (cs : List Char) : Option (Nat × List Char) :=
  match cs with
  | a :: b :: c :: d :: rest =>
    if [a, b, c, d].all (Text.isDigitOf 16) then
      some (Text.numeral 16 [a, b, c, d], rest)
    else none
  | _ => none

theorem hex4_length {cs rest : List Char} {n : Nat} (h : hex4 cs = some (n, rest)) :
    rest.length < cs.length := by
  unfold hex4 at h
  split at h
  · split at h
    · simp only [Option.some.injEq, Prod.mk.injEq] at h
      obtain ⟨-, rfl⟩ := h
      simp
      omega
    · simp at h
  · simp at h

/-- The second half of a surrogate pair, if one is escaped at the front of the text. -/
def secondHalf : List Char → Except String (Option (Nat × List Char))
  | '\\' :: 'u' :: rest =>
    match hex4 rest with
    | none => .error "invalid escape"
    | some (low, after) =>
      .ok (if 0xDC00 ≤ low && low < 0xE000 then some (low, after) else none)
  | _ => .ok none

theorem secondHalf_length {cs rest : List Char} {low : Nat}
    (h : secondHalf cs = .ok (some (low, rest))) : rest.length < cs.length := by
  unfold secondHalf at h
  split at h
  · split at h
    · cases h
    · next hhex =>
      have := hex4_length hhex
      split at h
      · cases h
        simp only [List.length_cons]
        omega
      · cases h
  · cases h

def simpleEscape : Char → Option Char
  | '"' => some '"'
  | '\\' => some '\\'
  | '/' => some '/'
  | 'b' => some '\x08'
  | 'f' => some '\x0c'
  | 'n' => some '\n'
  | 'r' => some '\r'
  | 't' => some '\t'
  | _ => none

/-- The characters of a text up to its closing quote. Half a surrogate pair spoils the text but not
the document. -/
def textFrom : List Char → Reading (Option (List Char))
  | [] => .error "unexpected end in a text"
  | '"' :: rest => .ok (some [], rest)
  | ['\\'] => .error "unexpected end in a text"
  | '\\' :: 'u' :: rest =>
    match h : hex4 rest with
    | none => .error "invalid escape"
    | some (n, after) =>
      have := hex4_length h
      if 0xD800 ≤ n && n < 0xDC00 then
        match h' : secondHalf after with
        | .error reason => .error reason
        | .ok (some (low, later)) =>
          have := secondHalf_length h'
          let c := Char.ofNat (0x10000 + (n - 0xD800) * 1024 + (low - 0xDC00))
          (textFrom later).map fun (s, r) => (s.map (c :: ·), r)
        | .ok none => (textFrom after).map fun (_, r) => (none, r)
      else if 0xDC00 ≤ n && n < 0xE000 then (textFrom after).map fun (_, r) => (none, r)
      else (textFrom after).map fun (s, r) => (s.map (Char.ofNat n :: ·), r)
  | '\\' :: c :: rest =>
    match simpleEscape c with
    | none => .error "invalid escape"
    | some d => (textFrom rest).map fun (s, r) => (s.map (d :: ·), r)
  | c :: rest =>
    if c.toNat < 0x20 then .error "control character in a text"
    else (textFrom rest).map fun (s, r) => (s.map (c :: ·), r)
termination_by cs => cs.length
decreasing_by
  all_goals simp only [List.length_cons] at *
  all_goals omega

/-- A text; the opening quote has been read. -/
def text (cs : List Char) : Reading Text :=
  (textFrom cs).map fun (s, rest) => (s.map String.ofList, rest)

/-! ### Values -/

mutual

/-- A value at the front of the text. -/
def value : (fuel : Nat) → List Char → Reading Value
  | 0, _ => .error "document too long"
  | fuel + 1, cs =>
    match cs with
    | [] => .error "unexpected end"
    | 'n' :: rest => (word "ull".toList rest).map fun r => (.null, r)
    | 't' :: rest => (word "rue".toList rest).map fun r => (.bool true, r)
    | 'f' :: rest => (word "alse".toList rest).map fun r => (.bool false, r)
    | '"' :: rest => (text rest).map fun (s, r) => (.text s, r)
    | '[' :: rest =>
      let rest := skipBlank rest
      match rest with
      | ']' :: after => .ok (.array [], after)
      | _ => (items fuel rest).map fun (vs, r) => (.array vs, r)
    | '\x7b' :: rest =>
      let rest := skipBlank rest
      match rest with
      | '\x7d' :: after => .ok (.object [], after)
      | _ => (members fuel rest).map fun (ms, r) => (.object ms, r)
    | c :: _ =>
      if c == '-' || c.isDigit then (number cs).map fun (n, r) => (.number n, r)
      else .error "expected value"

/-- The values of an array up to its closing bracket. -/
def items : (fuel : Nat) → List Char → Reading (List Value)
  | 0, _ => .error "document too long"
  | fuel + 1, cs =>
    match value fuel cs with
    | .error e => .error e
    | .ok (v, rest) =>
      match skipBlank rest with
      | ',' :: more => (items fuel (skipBlank more)).map fun (vs, r) => (v :: vs, r)
      | ']' :: after => .ok ([v], after)
      | _ => .error "expected a comma or a closing bracket"

/-- The members of an object up to its closing brace. -/
def members : (fuel : Nat) → List Char → Reading (List (Text × Value))
  | 0, _ => .error "document too long"
  | fuel + 1, cs =>
    match cs with
    | '"' :: rest =>
      match text rest with
      | .error e => .error e
      | .ok (k, rest) =>
        match skipBlank rest with
        | ':' :: rest =>
          match value fuel (skipBlank rest) with
          | .error e => .error e
          | .ok (v, rest) =>
            match skipBlank rest with
            | ',' :: more => (members fuel (skipBlank more)).map fun (ms, r) => ((k, v) :: ms, r)
            | '\x7d' :: after => .ok ([(k, v)], after)
            | _ => .error "expected a comma or a closing brace"
        | _ => .error "expected a colon"
    | _ => .error "expected a member name"

end

/-- Reads a whole document. -/
def parse (source : String) : Except String Value :=
  let cs := source.toList
  match value (2 * cs.length + 2) (skipBlank cs) with
  | .error e => .error e
  | .ok (v, rest) => if (skipBlank rest).isEmpty then .ok v else .error "trailing characters"

end ComposeHarness.Json
