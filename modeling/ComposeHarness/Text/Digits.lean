/-!
# Digits

Numbers written in a base up to sixteen, with letters of either case for the digits from ten on.
-/
namespace ComposeHarness.Text

/-- What a digit counts in a base, if it is one of that base. -/
def digit? (base : Nat) (c : Char) : Option Nat :=
  let value :=
    if c.isDigit then some (c.toNat - '0'.toNat)
    else if 'a' ≤ c && c ≤ 'f' then some (c.toNat - 'a'.toNat + 10)
    else if 'A' ≤ c && c ≤ 'F' then some (c.toNat - 'A'.toNat + 10)
    else none
  value.filter (· < base)

def isDigitOf (base : Nat) (c : Char) : Bool := (digit? base c).isSome

/-- The number that digits make; what is no digit counts as zero. -/
def numeral (base : Nat) (cs : List Char) : Nat :=
  cs.foldl (fun n c => n * base + (digit? base c).getD 0) 0

/-- The number that a text of one or more digits makes. -/
def numeral? (base : Nat) (cs : List Char) : Option Nat :=
  if !cs.isEmpty && cs.all (isDigitOf base) then some (numeral base cs) else none

theorem digit?_ten (c : Char) :
    digit? 10 c = if c.isDigit then some (c.toNat - '0'.toNat) else none := by
  unfold digit?
  split
  · next h =>
    have hlt : c.toNat - '0'.toNat < 10 := by
      simp only [Char.isDigit, Bool.and_eq_true, decide_eq_true_eq] at h
      have hc : c.toNat ≤ 57 := h.2
      have h0 : '0'.toNat = 48 := rfl
      omega
    exact Option.filter_eq_some_iff.2 ⟨rfl, by simpa using hlt⟩
  · split
    · simp
    · split <;> simp

theorem foldl_digits_ten {cs : List Char} (h : ∀ c ∈ cs, c.isDigit) (n : Nat) :
    cs.foldl (fun n c => n * 10 + (digit? 10 c).getD 0) n = Nat.ofDigitChars 10 cs n := by
  induction cs generalizing n with
  | nil => rfl
  | cons c cs ih =>
    rw [List.foldl_cons, ih (fun d hd => h d (by simp [hd])), Nat.ofDigitChars_cons]
    simp [digit?_ten, h c (by simp), Nat.mul_comm]

theorem numeral?_ten_eq_some_iff {cs : List Char} {n : Nat} :
    numeral? 10 cs = some n ↔
      cs ≠ [] ∧ (∀ c ∈ cs, c.isDigit) ∧ Nat.ofDigitChars 10 cs 0 = n := by
  have hdigit : ∀ c, isDigitOf 10 c = c.isDigit := by
    intro c
    by_cases h : c.isDigit <;> simp [isDigitOf, digit?_ten, h]
  by_cases h : ∀ c ∈ cs, c.isDigit
  · have hall : cs.all (isDigitOf 10) := by simpa [hdigit] using h
    simp only [numeral?, hall, numeral, foldl_digits_ten h, Bool.and_true]
    simp [and_iff_right h]
  · simp [numeral?, hdigit, h]

/-- Takes the sign off a number: whether it is negative, and the rest. -/
def splitSign : List Char → Bool × List Char
  | '-' :: rest => (true, rest)
  | '+' :: rest => (false, rest)
  | cs => (false, cs)

/-- The number of digits with an optional sign. -/
def integer? (base : Nat) (cs : List Char) : Option Int :=
  let (negative, digits) := splitSign cs
  (numeral? base digits).map fun n => if negative then -(n : Int) else n

@[simp] theorem numeral?_nil (base : Nat) : numeral? base [] = none := rfl

end ComposeHarness.Text
