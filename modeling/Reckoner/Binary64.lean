import Reckoner.Rounding

/-!
# Binary floating-point numbers as exact values

A finite float is a sign and a magnitude `significand * 2 ^ exponent` with natural significand, so
every question about it that has an exact answer is a question about natural numbers. This module
decodes floats into that form and finds the float nearest to a quotient of natural numbers.

The bit pattern of a magnitude counts the floats below it. Hence a significand rounded up to the
next power of two needs no special case: adding it to the exponent field carries into the right
pattern, also from the subnormal numbers into the normal ones and from the largest finite number to
infinity.
-/

namespace Reckoner

/-- The exact value of a float. -/
inductive Binary64 where
  /-- The number `± significand * 2 ^ exponent`, also a signed zero. -/
  | finite (negative : Bool) (significand : Nat) (exponent : Int)
  | infinite (negative : Bool)
  | notANumber
  deriving DecidableEq, Repr

namespace Binary64

/-- The number of values of the fraction field. -/
def fractionCount : Nat := Nat.pow 2 52

/-- The exponent of the last bit of the smallest positive float. -/
def leastExponent : Int := -1074

/-- The bit pattern of positive infinity, which is also the number of finite magnitudes. -/
def infinityBits : Nat := 2047 * fractionCount

/-- The bit pattern of the sign. -/
def signBits (negative : Bool) : Nat := if negative then Nat.pow 2 63 else 0

/-- The exact value of a float. -/
def ofFloat (value : Float) : Binary64 :=
  let bits := value.toBits.toNat
  let negative := decide (Nat.pow 2 63 ≤ bits)
  let exponentField := bits / fractionCount % 2048
  let fractionField := bits % fractionCount
  if exponentField = 2047 then
    if fractionField = 0 then infinite negative else notANumber
  else if exponentField = 0 then
    finite negative fractionField leastExponent
  else
    finite negative (fractionCount + fractionField) (exponentField - 1 + leastExponent)

/-- `base ^ exponent` for an exponent of either sign, as a numerator and a denominator. -/
def powerQuotient (base : Nat) (exponent : Int) : Nat × Nat :=
  (Nat.pow base exponent.toNat, Nat.pow base (-exponent).toNat)

/-- The largest `k` with `2 ^ k ≤ numerator / denominator`, for a positive quotient. -/
def floorLog2 (numerator denominator : Nat) : Int :=
  let estimate : Int := (numerator.log2 : Int) - (denominator.log2 : Int)
  let (scaleNumerator, scaleDenominator) := powerQuotient 2 estimate
  if scaleNumerator * denominator ≤ numerator * scaleDenominator then estimate else estimate - 1

/-- The bit pattern of the magnitude nearest to `numerator / denominator`, ties going to the even
significand and magnitudes out of range to infinity. -/
def nearestBits (numerator denominator : Nat) : Nat :=
  if numerator = 0 then 0
  else
    let exponent := max leastExponent (floorLog2 numerator denominator - 52)
    let (scaleNumerator, scaleDenominator) := powerQuotient 2 exponent
    let significand :=
      Rounding.nearestEven (numerator * scaleDenominator) (denominator * scaleNumerator)
    min infinityBits ((exponent - leastExponent).toNat * fractionCount + significand)

/-- The float nearest to `± numerator / denominator`; the sign of zero is kept. -/
def nearest (negative : Bool) (numerator denominator : Nat) : Float :=
  Float.ofBits (UInt64.ofNat (signBits negative + nearestBits numerator denominator))

/-- The infinite float of the given sign. -/
def infinity (negative : Bool) : Float :=
  Float.ofBits (UInt64.ofNat (signBits negative + infinityBits))

/-- The float that is not a number. -/
def nan : Float :=
  Float.ofBits (UInt64.ofNat (infinityBits + fractionCount / 2))

/-- The float of an exact value, rounded to the nearest one if need be. -/
def toFloat : Binary64 → Float
  | finite negative significand exponent =>
      let (scaleNumerator, scaleDenominator) := powerQuotient 2 exponent
      nearest negative (significand * scaleNumerator) scaleDenominator
  | infinite negative => infinity negative
  | notANumber => nan

/-- The remainder of a truncated division: the dividend less a whole multiple of the divisor, with
the sign of the dividend and a magnitude below that of the divisor. It is always exact. No remainder
exists for an infinite dividend or a zero divisor.
-/
def remainder (dividend divisor : Float) : Float :=
  match ofFloat dividend, ofFloat divisor with
  | finite negative significand exponent, finite _ divisorSignificand divisorExponent =>
      if divisorSignificand = 0 then nan
      else
        let least := min exponent divisorExponent
        let scaled := significand * Nat.pow 2 (exponent - least).toNat
        let divisorScaled := divisorSignificand * Nat.pow 2 (divisorExponent - least).toNat
        toFloat (finite negative (scaled % divisorScaled) least)
  | finite _ _ _, infinite _ => dividend
  | _, _ => nan

end Binary64

end Reckoner
