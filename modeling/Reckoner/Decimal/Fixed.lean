import Reckoner.Decimal

/-!
# Decimals with a fixed number of places

The exact value of a float is rounded to a number of decimal places, ties to even. Text with fixed
places shows that rounding digit by digit, also for magnitudes that fill hundreds of digits. A float
can also be replaced by the float nearest to the rounding.
-/

namespace Reckoner

namespace Decimal

/-- `significand * 2 ^ exponent` counted in units of `10 ^ -places`, rounded with ties to even. -/
def scaledToPlaces (places significand : Nat) (exponent : Int) : Nat :=
  let (scaleNumerator, scaleDenominator) := Binary64.powerQuotient 2 exponent
  Rounding.nearestEven (significand * scaleNumerator * Nat.pow 10 places) scaleDenominator

/-- The float nearest to the value rounded to `places` decimal places; a sign stays, also that of a
zero. -/
def roundToPlaces (places : Nat) (value : Float) : Float :=
  match Binary64.ofFloat value with
  | .finite negative significand exponent =>
      Binary64.nearest negative (scaledToPlaces places significand exponent) (Nat.pow 10 places)
  | .infinite _ | .notANumber => value

/-- A count of units of `10 ^ -places` as text: the whole part, a point and exactly `places`
digits. -/
def placesText (places units : Nat) : List Char :=
  Digits.ofNat (units / Nat.pow 10 places) ++
    '.' :: Digits.padded places (units % Nat.pow 10 places)

/-- The sign of a number text: a minus or nothing. -/
def signText (negative : Bool) : List Char := if negative then ['-'] else []

/-- A float with a fixed, positive number of decimal places. A negative float keeps its sign even if
all digits shown are zero. -/
def fixedText (places : Nat) (value : Float) : List Char :=
  match Binary64.ofFloat value with
  | .finite negative significand exponent =>
      signText negative ++ placesText places (scaledToPlaces places significand exponent)
  | .infinite negative => signText negative ++ ['i', 'n', 'f']
  | .notANumber => ['N', 'a', 'N']

end Decimal

end Reckoner
