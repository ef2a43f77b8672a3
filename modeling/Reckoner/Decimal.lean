import Reckoner.Binary64
import Reckoner.Digits

/-!
# Decimal numbers

A decimal number is a natural coefficient times a power of ten. The number texts of this library
denote decimal numbers; the float of a text is the float nearest to its decimal number.
-/

namespace Reckoner

/-- The number `coefficient * 10 ^ exponent`. -/
structure Decimal where
  coefficient : Nat
  exponent : Int
  deriving DecidableEq, Repr

namespace Decimal

/-- The number of decimal digits of a natural number; zero has none. -/
def digitCount (value : Nat) : Nat :=
  if value = 0 then 0 else (Digits.ofNat value).length

/-- The same number with a coefficient that is zero or does not end in the digit zero. -/
def withoutTrailingZeros (number : Decimal) : Decimal :=
  if h : number.coefficient ≠ 0 ∧ number.coefficient % 10 = 0 then
    withoutTrailingZeros ⟨number.coefficient / 10, number.exponent + 1⟩
  else number
termination_by number.coefficient
decreasing_by exact Nat.div_lt_self (Nat.pos_of_ne_zero h.1) (by decide)

/--
The float nearest to `± coefficient * 10 ^ exponent`, ties to even.

A magnitude of `10 ^ 310` or more is infinite and one below `10 ^ -330` is zero; deciding these from
the number of digits keeps an absurd exponent from being spelled out as a power of ten.
-/
def toFloat (negative : Bool) (number : Decimal) : Float :=
  let magnitude := (digitCount number.coefficient : Int) + number.exponent
  if number.coefficient = 0 ∨ magnitude < -330 then Binary64.nearest negative 0 1
  else if 310 < magnitude then Binary64.infinity negative
  else
    let (scaleNumerator, scaleDenominator) := Binary64.powerQuotient 10 number.exponent
    Binary64.nearest negative (number.coefficient * scaleNumerator) scaleDenominator

end Decimal

end Reckoner
