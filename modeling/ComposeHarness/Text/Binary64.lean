import ComposeHarness.Text.Digits

/-!
# Binary fractions of 64 bits

A finite one is a whole number of up to 53 bits times a power of two. A decimal or hexadecimal number
is rounded to the nearest of them, and the way back is exact: it gives as many digits as are asked
for, and halves go to the even neighbour.
-/
namespace ComposeHarness.Text

/-- The nearest whole number to a quotient; of two, the even one. -/
def roundDiv (num den : Nat) : Nat :=
  let q := num / den
  let r := num % den
  if 2 * r < den || (2 * r == den && q % 2 == 0) then q else q + 1

inductive Binary64 where
  /-- The mantissa counts powers of two. -/
  | finite (negative : Bool) (mantissa : Nat) (exponent : Int)
  | infinite (negative : Bool)
  | notANumber (negative : Bool)
  deriving Repr, DecidableEq

namespace Binary64

/-- The number of bits of a mantissa. -/
def precision : Nat := 53

/-- The exponent below which no number goes. -/
def leastExponent : Int := -1074

/-- A quotient as one of whole numbers after the second has been multiplied by a power of two. -/
def scaled (num den : Nat) (exponent : Int) : Nat × Nat :=
  if 0 ≤ exponent then (num, den * Nat.pow 2 exponent.toNat)
  else (num * Nat.pow 2 (-exponent).toNat, den)

/-- The binary fraction next to a quotient, and whether it is too large or too small to be told
exactly. -/
def nearest (negative : Bool) (num den : Nat) : Binary64 × Bool :=
  if num = 0 then (.finite negative 0 leastExponent, true)
  else
    let bits (e : Int) : Nat :=
      let (n, d) := scaled num den e
      roundDiv n d
    -- one of three exponents is the first for which the mantissa is not too long
    let least := max ((num.log2 : Int) - den.log2 - precision) leastExponent
    let e := (([least, least + 1].find? fun e => bits e < Nat.pow 2 precision)).getD (least + 2)
    let m := bits e
    if 1024 < e + precision then (.infinite negative, false)
    else
      let (n, d) := scaled num den e
      let exact := n = m * d
      (.finite negative m e, exact || decide (Nat.pow 2 (precision - 1) ≤ m))

/-- The value without its sign, as a quotient. -/
def quotient (mantissa : Nat) (exponent : Int) : Nat × Nat :=
  if 0 ≤ exponent then (mantissa * Nat.pow 2 exponent.toNat, 1)
  else (mantissa, Nat.pow 2 (-exponent).toNat)

/-! ### Reading -/

def digitsOf (base : Nat) (cs : List Char) : List Char × List Char :=
  (cs.takeWhile (isDigitOf base), cs.dropWhile (isDigitOf base))

/-- Digits with a point somewhere among them: all of them, how many come after the point, and the
rest. -/
def pointed? (base : Nat) (cs : List Char) : Option (List Char × Nat × List Char) :=
  let (whole, rest) := digitsOf base cs
  let (places, rest) := match rest with
    | '.' :: more =>
      let (places, after) := digitsOf base more
      if whole.isEmpty && places.isEmpty then ([], rest) else (places, after)
    | _ => ([], rest)
  if whole.isEmpty && places.isEmpty then none else some (whole ++ places, places.length, rest)

/-- An exponent after one of two letters; without digits there is none. -/
def exponentAt (low high : Char) (cs : List Char) : Int × List Char :=
  match cs with
  | c :: more =>
    if c == low || c == high then
      let (negative, digits) := splitSign more
      let (ds, rest) := digitsOf 10 digits
      if ds.isEmpty then (0, cs)
      else (if negative then -(numeral 10 ds : Int) else numeral 10 ds, rest)
    else (0, cs)
  | [] => (0, cs)

/-- The greatest exponent that can matter. -/
def exponentLimit : Int := 20000

/-- A number that digits and an exponent to a base make. -/
def ofDigits (negative : Bool) (mantissa base : Nat) (exponent : Int) : Binary64 × Bool :=
  let e := max (-exponentLimit) (min exponent exponentLimit)
  if 0 ≤ e then nearest negative (mantissa * Nat.pow base e.toNat) 1
  else nearest negative mantissa (Nat.pow base (-e).toNat)

/-- What follows a word, in letters of any case. -/
def afterWord? (word : String) (cs : List Char) : Option (List Char) :=
  if (cs.take word.length).map Char.toLower = word.toList then some (cs.drop word.length) else none

/-- The number at the front of a text, whether it could be told, and what follows it. -/
def read? (cs : List Char) : Option (Binary64 × Bool × List Char) :=
  let (negative, body) := splitSign (cs.dropWhile fun c => c == ' ' || (9 ≤ c.toNat && c.toNat ≤ 13))
  let finite (base : Nat) (scale : Nat) (power : Nat) (digits : List Char) (places : Nat)
      (exponent : Int) : Binary64 × Bool :=
    ofDigits negative (numeral base digits) power (exponent - scale * places)
  match afterWord? "infinity" body, afterWord? "inf" body, afterWord? "nan" body with
  | some rest, _, _ => some (.infinite negative, true, rest)
  | none, some rest, _ => some (.infinite negative, true, rest)
  | none, none, some rest =>
    let inner := (rest.drop 1).takeWhile fun c => c.isAlphanum || c == '_'
    let after := (rest.drop 1).drop inner.length
    if rest.head? = some '(' && after.head? = some ')' then
      some (.notANumber negative, true, after.drop 1)
    else some (.notANumber negative, true, rest)
  | none, none, none =>
    let hexadecimal := match body with
      | '0' :: x :: rest => if x == 'x' || x == 'X' then pointed? 16 rest else none
      | _ => none
    match hexadecimal with
    | some (digits, places, rest) =>
      let (e, rest) := exponentAt 'p' 'P' rest
      let (n, told) := finite 16 4 2 digits places e
      some (n, told, rest)
    | none =>
      (pointed? 10 body).map fun (digits, places, rest) =>
        let (e, rest) := exponentAt 'e' 'E' rest
        let (n, told) := finite 10 1 10 digits places e
        (n, told, rest)

/-! ### Writing -/

/-- The digits of a number, at least some. -/
def padded (least n : Nat) : List Char :=
  let digits := Nat.toDigits 10 n
  List.replicate (least - digits.length) '0' ++ digits

/-- Digits with a point before the last ones. The point is left out if nothing follows it, unless it
is to stay. -/
def withPoint (places : Nat) (keep : Bool) (digits : List Char) : String :=
  let whole := String.ofList (digits.take (digits.length - places))
  if places = 0 then (if keep then whole ++ "." else whole)
  else whole ++ "." ++ String.ofList (digits.drop (digits.length - places))

/-- A quotient with a number of places. -/
def fixed (num den places : Nat) (keep : Bool) : String :=
  withPoint places keep (padded (places + 1) (roundDiv (num * Nat.pow 10 places) den))

/-- The nearest decimal number with one digit and some places before the exponent. -/
def decimal (num den places : Nat) : Nat × Int :=
  if num = 0 then (0, 0)
  else
    let digitsAt (k : Int) : Nat :=
      let shift : Int := places - k
      if 0 ≤ shift then roundDiv (num * Nat.pow 10 shift.toNat) den
      else roundDiv num (den * Nat.pow 10 (-shift).toNat)
    let guess : Int := ((Nat.toDigits 10 num).length : Int) - (Nat.toDigits 10 den).length
    -- the exponent is the guess or one less
    let below := if 0 ≤ guess then num < den * Nat.pow 10 guess.toNat
      else num * Nat.pow 10 (-guess).toNat < den
    let k := if below then guess - 1 else guess
    let m := digitsAt k
    if m < Nat.pow 10 (places + 1) then (m, k) else (m / 10, k + 1)

/-- An exponent of at least two digits. -/
def exponentText (letter : String) (k : Int) : String :=
  letter ++ (if k < 0 then "-" else "+") ++ String.ofList (padded 2 k.natAbs)

/-- A quotient with one digit before its point, some after it, and an exponent. -/
def scientific (num den places : Nat) (keep : Bool) : String :=
  let (m, k) := decimal num den places
  withPoint places keep (padded (places + 1) m) ++ exponentText "e" k

/-- A decimal fraction without zeros at its end. -/
def shorten (s : String) : String :=
  if s.toList.contains '.' then
    let kept := s.toList.reverse.dropWhile (· == '0')
    String.ofList (match kept with
      | '.' :: rest => rest.reverse
      | kept => kept.reverse)
  else s

/-- A quotient with a number of digits, in the shorter of the two ways. -/
def general (num den digits : Nat) (keep : Bool) : String :=
  let digits := max digits 1
  let (m, k) := decimal num den (digits - 1)
  let trim (s : String) : String := if keep then s else shorten s
  if -4 ≤ k && k < digits then
    trim (fixed num den ((digits : Int) - 1 - k).toNat keep)
  else
    trim (withPoint (digits - 1) keep (padded digits m)) ++ exponentText "e" k

/-- A number in base sixteen with one digit before its point, and an exponent to the base two. -/
def hexadecimal (mantissa : Nat) (exponent : Int) (places : Option Nat) (keep : Bool) : String :=
  let low := precision - 1
  let e : Int := if mantissa = 0 then 0 else exponent + low
  let digits : Nat := low / 4
  let m := match places with
    | some p => if p < digits then roundDiv mantissa (Nat.pow 16 (digits - p)) else
        mantissa * Nat.pow 16 (p - digits)
    | none => mantissa
  let count := places.getD digits
  let ds := Nat.toDigits 16 m
  let ds := List.replicate (count + 1 - ds.length) '0' ++ ds
  let body := withPoint count keep ds
  "0x" ++ (if places.isNone then shorten body else body) ++ "p" ++
    (if e < 0 then "-" else "+") ++ toString e.natAbs

example : (read? "1e23".toList).map (·.1) = some (.finite false 0x152d02c7e14af6 24) := by
  decide +kernel
example : fixed 1 8 2 false = "0.12" ∧ scientific 1 3 3 false = "3.333e-01" ∧
    general 100000 1 6 false = "100000" ∧ general 1000000 1 6 false = "1e+06" := by decide +kernel

end Binary64
end ComposeHarness.Text
