import Reckoner.Decimal.Shortest
import Reckoner.Numeral

/-!
# Numbers of JSON texts

A number is a numeral with perhaps a minus. Its digits are kept as they are written; what number
they denote is decided by who reads it.

A float is read quickly rather than exactly: as many leading digits as fit into 64 bits are one
significand, which is rounded to a float and then multiplied with or divided by a float that is a
power of ten. A number that becomes infinite on the way is refused.

A float is written with the fewest digits that read back exactly. It always has a point or an
exponent.
-/

namespace Reckoner

namespace Json

/-- A number as it is written. -/
structure Number where
  negative : Bool
  numeral : Numeral
  deriving DecidableEq

namespace Number

/-- Whether a numeral is one of JSON: no needless leading zero, and a digit after a point. -/
def isAdmissible (numeral : Numeral) : Bool :=
  (numeral.whole.length == 1 || numeral.whole.chars.head? != some '0') &&
    (match numeral.fraction with
      | some digits => !digits.chars.isEmpty
      | none => true)

/-- The written form of a number. -/
def text (number : Number) : List Char := Decimal.signText number.negative ++ number.numeral.text

/-- Whether a number is written without point and exponent. -/
def isWhole (number : Number) : Bool :=
  number.numeral.fraction.isNone && number.numeral.exponent.isNone

/-- The natural number that a number denotes, if it is written as one. -/
def toNat? (number : Number) : Option Nat :=
  if !number.negative && number.isWhole then some number.numeral.whole.value else none

/-- The significand of a number that is being read, with the power of ten it still lacks. -/
structure Scaled where
  significand : Nat
  exponent : Int
  /-- Whether a digit was dropped because the significand was full. -/
  isFull : Bool

/-- The least number that does not fit into 64 bits. -/
def significandBound : Nat := Nat.pow 2 64

/-- Adds a digit before the point. Once the significand is full, further digits only count. -/
def Scaled.addWhole (scaled : Scaled) (digit : Char) : Scaled :=
  let next := Nat.ofDigitChars 10 [digit] scaled.significand
  if scaled.isFull || significandBound ≤ next then
    { scaled with exponent := scaled.exponent + 1, isFull := true }
  else { scaled with significand := next }

/-- Adds a digit after the point. Once the significand is full, further digits are dropped. -/
def Scaled.addFraction (scaled : Scaled) (digit : Char) : Scaled :=
  let next := Nat.ofDigitChars 10 [digit] scaled.significand
  if scaled.isFull || significandBound ≤ next then { scaled with isFull := true }
  else { scaled with significand := next, exponent := scaled.exponent - 1 }

/-- The significand of a number and the power of ten before its own exponent is counted. -/
def scaled (numeral : Numeral) : Scaled :=
  let whole := numeral.whole.chars.foldl Scaled.addWhole ⟨0, 0, false⟩
  match numeral.fraction with
  | some digits => digits.chars.foldl Scaled.addFraction { whole with isFull := false }
  | none => whole

/-- The float nearest to a power of ten. -/
def powerOfTen (exponent : Nat) : Float := Decimal.toFloat false ⟨1, exponent⟩

/-- The greatest exponent of a power of ten that is a finite float. -/
def greatestPower : Nat := 308

/-- The float `value / 10 ^ exponent`, dividing by the greatest power as often as the exponent
exceeds it; after a few such steps nothing is left of any float. -/
def divideByPower (value : Float) (exponent : Nat) : Float :=
  let whole := min 3 ((exponent - 1) / greatestPower)
  let reduced := Nat.repeat (· / powerOfTen greatestPower) whole value
  reduced / powerOfTen (min greatestPower (exponent - whole * greatestPower))

/-- The float of a significand and a power of ten; infinite values are refused. -/
def combine? (significand : Nat) (exponent : Int) : Option Float :=
  let value := Float.ofNat significand
  if significand = 0 then some value
  else if exponent < 0 then some (divideByPower value exponent.natAbs)
  else if greatestPower < exponent then none
  else
    let product := value * powerOfTen exponent.toNat
    if product.isInf then none else some product

/-- The float that a number is read as. -/
def toFloat? (number : Number) : Option Float :=
  let read := scaled number.numeral
  let exponent := (number.numeral.exponent.map Exponent.value).getD 0
  (combine? read.significand (read.exponent + exponent)).map fun value =>
    if number.negative then -value else value

/-- The number of a natural number. -/
def ofNat (value : Nat) : Number where
  negative := false
  numeral :=
    { whole := DigitRun.ofNat value
      fraction := none
      exponent := none
      whole_ne_nil := DigitRun.ofNat_ne_nil value }

end Number

end Json

end Reckoner
