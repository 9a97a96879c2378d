/-!
# Decimal fractions

When a decimal number is too large for a binary fraction of 64 bits.
-/
namespace ComposeHarness.Text

/-- Whether a decimal number is below the least one that rounds to an infinity: `mantissa` times ten
to the power of `exponent`. -/
def isFinite (mantissa : Nat) (exponent : Int) : Bool :=
  -- the least such number
  let bound := Nat.pow 2 1024 - Nat.pow 2 970
  if mantissa = 0 then true
  else if 400 < exponent then false
  else if 0 ≤ exponent then decide (mantissa * Nat.pow 10 exponent.toNat < bound)
  else
    let places := (-exponent).toNat
    -- a number with fewer than 300 digits before its point is small enough
    if (Nat.toDigits 10 mantissa).length < places + 300 then true
    else decide (mantissa < bound * Nat.pow 10 places)

end ComposeHarness.Text
