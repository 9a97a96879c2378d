/-!
# Spans of time

A duration is a count of nanoseconds. It is written in two ways: exactly, in the largest unit that
keeps the integer part positive, and for reports, with one decimal below a minute and in minutes and
seconds from there on.
-/
namespace ComposeHarness

/-- A span of time in nanoseconds. -/
structure Duration where
  nanos : Nat
  deriving Repr, DecidableEq, Inhabited

namespace Duration

def nanosPerSecond : Nat := 1000000000

def zero : Duration := ⟨0⟩
def ofNanos (n : Nat) : Duration := ⟨n⟩
def ofMillis (n : Nat) : Duration := ⟨n * 1000000⟩
def ofSeconds (n : Nat) : Duration := ⟨n * nanosPerSecond⟩
def millis (d : Duration) : Nat := d.nanos / 1000000
def seconds (d : Duration) : Nat := d.nanos / nanosPerSecond

instance : Add Duration := ⟨fun a b => ⟨a.nanos + b.nanos⟩⟩
instance : Sub Duration := ⟨fun a b => ⟨a.nanos - b.nanos⟩⟩
instance : LE Duration := ⟨fun a b => a.nanos ≤ b.nanos⟩
instance : LT Duration := ⟨fun a b => a.nanos < b.nanos⟩
instance (a b : Duration) : Decidable (a ≤ b) := inferInstanceAs (Decidable (a.nanos ≤ b.nanos))
instance (a b : Duration) : Decidable (a < b) := inferInstanceAs (Decidable (a.nanos < b.nanos))
instance : Max Duration := ⟨fun a b => ⟨max a.nanos b.nanos⟩⟩
instance : Min Duration := ⟨fun a b => ⟨min a.nanos b.nanos⟩⟩

@[simp] theorem nanos_add (a b : Duration) : (a + b).nanos = a.nanos + b.nanos := rfl
@[simp] theorem nanos_sub (a b : Duration) : (a - b).nanos = a.nanos - b.nanos := rfl
@[simp] theorem nanos_max (a b : Duration) : (max a b).nanos = max a.nanos b.nanos := rfl
@[simp] theorem nanos_min (a b : Duration) : (min a b).nanos = min a.nanos b.nanos := rfl
@[simp] theorem nanos_zero : zero.nanos = 0 := rfl
theorem le_def (a b : Duration) : a ≤ b ↔ a.nanos ≤ b.nanos := Iff.rfl
theorem lt_def (a b : Duration) : a < b ↔ a.nanos < b.nanos := Iff.rfl

@[ext] theorem ext {a b : Duration} (h : a.nanos = b.nanos) : a = b := by
  cases a; cases b; cases h; rfl

@[simp] theorem add_zero (d : Duration) : d + zero = d := rfl

@[simp] theorem zero_add (d : Duration) : zero + d = d := ext (Nat.zero_add d.nanos)

@[simp] theorem add_sub_cancel_left (a b : Duration) : a + b - a = b :=
  ext (Nat.add_sub_cancel_left ..)

theorem add_assoc (a b c : Duration) : a + b + c = a + (b + c) :=
  ext (Nat.add_assoc a.nanos b.nanos c.nanos)

/-- Exactly `width` digits of `n`, zeros in front. -/
def digits : (width n : Nat) → List Char
  | 0, _ => []
  | width + 1, n => digits width (n / 10) ++ [Nat.digitChar (n % 10)]

def dropZeroEnd (cs : List Char) : List Char :=
  cs.foldr (fun c rest => if rest.isEmpty && c == '0' then [] else c :: rest) []

/-- A count of units with `width` decimals after it, zeros at the end left out. -/
def decimal (whole part width : Nat) (unit : String) : String :=
  let fraction := dropZeroEnd (digits width part)
  toString whole ++ (if fraction.isEmpty then "" else "." ++ String.ofList fraction) ++ unit

/-- The exact text, such as 2.3s, 1.5µs or 0ns. -/
def exact (d : Duration) : String :=
  if nanosPerSecond ≤ d.nanos then
    decimal (d.nanos / nanosPerSecond) (d.nanos % nanosPerSecond) 9 "s"
  else if 1000000 ≤ d.nanos then decimal (d.nanos / 1000000) (d.nanos % 1000000) 6 "ms"
  else if 1000 ≤ d.nanos then decimal (d.nanos / 1000) (d.nanos % 1000) 3 "µs"
  else decimal d.nanos 0 0 "ns"

/-- The quotient rounded to the nearest integer, a tie to the even one. -/
def roundHalfEven (num den : Nat) : Nat :=
  let q := num / den
  let twice := 2 * (num % den)
  if twice < den then q
  else if den < twice then q + 1
  else if q % 2 == 0 then q else q + 1

/-- The binary fraction with 53 significant bits that lies nearest to `num / den`, as a numerator
over a power of two: `(m, k)` is `m / 2 ^ k`. -/
def nearestBinary (num den : Nat) : Nat × Nat :=
  if num == 0 then (0, 0)
  else
    let k := 53 + den.log2 - num.log2
    -- the quotient has 53 or 54 bits at this scale
    let k := if num * Nat.pow 2 k / den < Nat.pow 2 53 then k else k - 1
    (roundHalfEven (num * Nat.pow 2 k) den, k)

/-- Tenths of a second. The span is taken as a binary fraction of a second first, the fraction of
the second and then the sum each rounded to 53 bits, and only then rounded to tenths. -/
def tenths (d : Duration) : Nat :=
  let (m, k) := nearestBinary (d.nanos % nanosPerSecond) nanosPerSecond
  let (n, j) := nearestBinary (d.seconds * Nat.pow 2 k + m) (Nat.pow 2 k)
  roundHalfEven (10 * n) (Nat.pow 2 j)

/-- The text in reports, such as 0.1s, 59.9s or 2m05s. -/
def short (d : Duration) : String :=
  if 60 ≤ d.seconds then
    toString (d.seconds / 60) ++ "m" ++ String.ofList (digits 2 (d.seconds % 60)) ++ "s"
  else
    let t := d.tenths
    toString (t / 10) ++ "." ++ toString (t % 10) ++ "s"

example : (ofMillis 1500).short = "1.5s" ∧ (ofSeconds 125).short = "2m05s" := by decide +kernel
example : (ofMillis 50).short = "0.1s" ∧ (ofMillis 150).short = "0.1s" ∧
    (ofMillis 250).short = "0.2s" ∧ (ofMillis 450).short = "0.5s" := by decide +kernel
example : (ofNanos 1500).exact = "1.5µs" ∧ (ofNanos 0).exact = "0ns" ∧
    (ofNanos 20000000010).exact = "20.00000001s" := by decide +kernel

end Duration
end ComposeHarness
