import Reckoner.Numeral

/-!
# Reading a number from a text

A real number is written with an optional sign, digits with an optional point among or beside them,
and an optional exponent. The words for infinity and for what is no number are accepted in either
case. The whole text must be the number; the result is the float nearest to it.
-/

namespace Reckoner

namespace Decimal

/-- The sign at the start of a text as whether it is a minus, and what follows it. -/
def readMinus (text : List Char) : Bool × List Char :=
  let (sign, unsigned) := Exponent.readSign text
  (sign == some .minus, unsigned)

/-- The words for infinity, in lower case. -/
def infinityWords : List (List Char) := [['i', 'n', 'f'], ['i', 'n', 'f', 'i', 'n', 'i', 't', 'y']]

/-- The word for what is no number, in lower case. -/
def nanWord : List Char := ['n', 'a', 'n']

/-- The decimal number of an unsigned text, of which at least one digit is before or after the
point. -/
def ofUnsignedText? (text : List Char) : Option Decimal :=
  let whole := DigitRun.takeFrom text
  let (fraction, afterFraction) := Numeral.readFraction (DigitRun.dropFrom text)
  let (exponent, rest) := Numeral.readExponent afterFraction
  let digits := whole ++ fraction.getD DigitRun.empty
  if rest = [] ∧ digits.chars ≠ [] then some (Numeral.decimalOf whole fraction exponent)
  else none

/-- The float that a text denotes. -/
def floatOfText? (text : List Char) : Option Float :=
  let (negative, unsigned) := readMinus text
  let word := unsigned.map Char.toLower
  if word ∈ infinityWords then some (Binary64.infinity negative)
  else if word = nanWord then some Binary64.nan
  else (ofUnsignedText? unsigned).map (toFloat negative)

end Decimal

end Reckoner
