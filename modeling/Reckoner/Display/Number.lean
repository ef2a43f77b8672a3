import Reckoner.Decimal.Fixed

/-!
# Numbers as they are shown

Amounts of money are shown with two decimals and a comma before every third digit of the whole part.
Rates are shown with three decimals. Values of expressions are shown with up to seven decimals.
-/

namespace Reckoner

namespace Display

/-- Commas between groups of three digits, counted from the last digit. -/
def groupThousands (digits : List Char) : List Char :=
  match digits with
  | [] => []
  | digit :: rest =>
      if rest.length % 3 = 0 ∧ rest ≠ [] then digit :: ',' :: groupThousands rest
      else digit :: groupThousands rest

/-- A number of cents as text. -/
def centsText (cents : Nat) : List Char :=
  groupThousands (Digits.ofNat (cents / 100)) ++ '.' :: Digits.padded 2 (cents % 100)

/-- The magnitude of an amount in whole cents, halves away from zero, of which at most 64 bits are
kept. An amount that is no number has no cents. -/
def centsOf (amount : Float) : Nat := (amount.abs * 100).round.toUInt64.toNat

/-- An amount of money. An amount that rounds to zero has no sign. -/
def amount (value : Float) : List Char :=
  Decimal.signText (decide (value < 0) && decide (0 < centsOf value)) ++ centsText (centsOf value)

/-- A rate in percent. -/
def rate (percent : Float) : List Char := Decimal.fixedText 3 percent ++ ['%']

/-- A text without the given letters at its end. -/
def dropLast (isDropped : Char → Bool) (text : List Char) : List Char :=
  (text.reverse.dropWhile isDropped).reverse

/-- A text with decimals as a calculator shows it: without zeros at the end of the decimals, without
a point that nothing follows, and without a sign before zero. -/
def trimDecimals (text : List Char) : List Char :=
  let trimmed := dropLast (· == '.') (dropLast (· == '0') text)
  if trimmed = ['-', '0'] then ['0'] else trimmed

/-- The value of an expression. -/
def number (value : Float) : List Char := trimDecimals (Decimal.fixedText 7 value)

/-- A text moved to the right end of a column. -/
def alignRight (width : Nat) (text : List Char) : List Char :=
  List.replicate (width - text.length) ' ' ++ text

end Display

end Reckoner
