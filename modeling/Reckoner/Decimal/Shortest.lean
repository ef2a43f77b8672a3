import Reckoner.Decimal.Fixed

/-!
# The shortest decimal that reads back as a float

The decimals that read back as a positive float form an interval around its exact value, closed iff
the significand is even. For one digit, two digits and so on up to seventeen, the two neighbours of
the value on the grid of that many digits are tried; the first grid with a neighbour inside the
interval gives the decimal, the nearer of two winning. Seventeen digits always suffice.

Texts differ only in their layout: positional, or with an exponent mark outside a range of
magnitudes.
-/

namespace Reckoner

namespace Decimal

/-- Which of two equally near decimals is taken. -/
inductive TieRule where
  | toEven
  | up
  deriving DecidableEq, Repr

/-- The interval of numbers that read back as a float, in units of a quarter of its last bit. -/
structure ReadingInterval where
  low : Nat
  value : Nat
  high : Nat
  closed : Bool

/-- The interval of a positive significand. Below a power of two the floats lie twice as dense, so
the interval reaches only half as far down from the least significand of a normal number. -/
def ReadingInterval.ofSignificand (significand : Nat) (exponent : Int) : ReadingInterval where
  low := 4 * significand -
    (if significand = Binary64.fractionCount ∧ Binary64.leastExponent < exponent then 1 else 2)
  value := 4 * significand
  high := 4 * significand + 2
  closed := significand % 2 == 0

/-- Whether `candidate / unit` lies in the interval, of which all bounds are scaled by `scale`. -/
def ReadingInterval.contains (interval : ReadingInterval) (scale candidate : Nat) : Bool :=
  if interval.closed then
    decide (interval.low * scale ≤ candidate ∧ candidate ≤ interval.high * scale)
  else
    decide (interval.low * scale < candidate ∧ candidate < interval.high * scale)

/-- The decimal exponent of the leading digit of a positive quotient. -/
def floorLog10 (numerator denominator : Nat) : Int :=
  let estimate : Int := (digitCount numerator : Int) - (digitCount denominator : Int)
  let (scaleNumerator, scaleDenominator) := Binary64.powerQuotient 10 estimate
  if scaleNumerator * denominator ≤ numerator * scaleDenominator then estimate else estimate - 1

/-- The decimal on the grid `10 ^ gridExponent` nearest to the value among its two neighbours that
read back, if one does. The interval is measured in units of `2 ^ unitExponent`.
-/
def neighbour? (tie : TieRule) (interval : ReadingInterval) (unitExponent gridExponent : Int) :
    Option Decimal :=
  let (unitNumerator, unitDenominator) := Binary64.powerQuotient 2 unitExponent
  let (gridNumerator, gridDenominator) := Binary64.powerQuotient 10 gridExponent
  let scale := unitNumerator * gridDenominator
  let gridUnit := gridNumerator * unitDenominator
  let below := interval.value * scale / gridUnit
  let rest := interval.value * scale % gridUnit
  let belowReads := 0 < below && interval.contains scale (below * gridUnit)
  let aboveReads := interval.contains scale ((below + 1) * gridUnit)
  let belowIsNearer :=
    2 * rest < gridUnit || (2 * rest == gridUnit && tie == .toEven && below % 2 == 0)
  match belowReads, aboveReads with
  | true, true => some ⟨if belowIsNearer then below else below + 1, gridExponent⟩
  | true, false => some ⟨below, gridExponent⟩
  | false, true => some ⟨below + 1, gridExponent⟩
  | false, false => none

/-- The decimal with the fewest digits that reads back as `significand * 2 ^ exponent`, and of those
with that many digits the nearest. A neighbour above the value may be the next power of ten, of
which only the first digit counts. -/
def shortest (tie : TieRule) (significand : Nat) (exponent : Int) : Decimal :=
  if significand = 0 then ⟨0, 0⟩
  else
    let (unitNumerator, unitDenominator) := Binary64.powerQuotient 2 exponent
    let leading := floorLog10 (significand * unitNumerator) unitDenominator
    let interval := ReadingInterval.ofSignificand significand exponent
    let tried := (List.range' 1 17).findSome? fun (digits : Nat) =>
      neighbour? tie interval (exponent - 2) (leading + 1 - digits)
    (tried.getD ⟨0, 0⟩).withoutTrailingZeros

/-- A decimal written without an exponent: as few zeros as its place value allows, and no point if
it is whole. -/
def positionalText (number : Decimal) : List Char :=
  let digits := Digits.ofNat number.coefficient
  if 0 ≤ number.exponent then
    if number.coefficient = 0 then ['0'] else digits ++ List.replicate number.exponent.toNat '0'
  else
    let places := (-number.exponent).toNat
    let padded := List.replicate (places + 1 - digits.length) '0' ++ digits
    padded.take (padded.length - places) ++ '.' :: padded.drop (padded.length - places)

/-- The shortest text of a float that never uses an exponent; a whole number has no point. -/
def plainText (value : Float) : List Char :=
  match Binary64.ofFloat value with
  | .finite negative significand exponent =>
      signText negative ++ positionalText (shortest .up significand exponent)
  | .infinite negative => signText negative ++ ['i', 'n', 'f']
  | .notANumber => ['N', 'a', 'N']

end Decimal

end Reckoner
