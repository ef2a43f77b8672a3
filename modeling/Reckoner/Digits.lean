/-!
# Decimal digits

Natural numbers are written with decimal digits, perhaps filled with zeros to a width. A run of
digits that was read keeps the digits as they were written, so leading zeros and the number of
digits are not lost.
-/

namespace Reckoner

namespace Digits

/-- The decimal digits of a natural number, without leading zeros. -/
def ofNat (value : Nat) : List Char := Nat.toDigits 10 value

/-- The decimal digits of a natural number, filled with zeros on the left to at least the given
width. -/
def padded (width value : Nat) : List Char :=
  List.replicate (width - (ofNat value).length) '0' ++ ofNat value

end Digits

/-- Decimal digits as they are written, possibly none. -/
structure DigitRun where
  chars : List Char
  all_isDigit : chars.all Char.isDigit = true
  deriving DecidableEq

namespace DigitRun

/-- The run without digits. -/
def empty : DigitRun := ⟨[], rfl⟩

/-- The decimal digits of a natural number, without leading zeros. -/
def ofNat (value : Nat) : DigitRun where
  chars := Digits.ofNat value
  all_isDigit := by
    simp only [List.all_eq_true]
    exact fun _ digit => Nat.isDigit_of_mem_toDigits (by decide) (by decide) digit

/-- The decimal digits of a natural number, filled with zeros on the left to at least the given
width. -/
def padded (width value : Nat) : DigitRun where
  chars := Digits.padded width value
  all_isDigit := by
    simp only [Digits.padded, List.all_append, List.all_replicate, Bool.and_eq_true]
    exact ⟨by simp, (ofNat value).all_isDigit⟩

/-- A natural number has at least one digit. -/
theorem ofNat_ne_nil (value : Nat) : (ofNat value).chars ≠ [] := Nat.toDigits_ne_nil

/-- The digits at the start of a text. -/
def takeFrom (text : List Char) : DigitRun := ⟨text.takeWhile Char.isDigit, List.all_takeWhile⟩

/-- What follows the digits at the start of a text. -/
def dropFrom (text : List Char) : List Char := text.dropWhile Char.isDigit

/-- Nothing is lost between the digits and the rest. -/
theorem takeFrom_append_dropFrom (text : List Char) :
    (takeFrom text).chars ++ dropFrom text = text :=
  List.takeWhile_append_dropWhile

/-- The natural number that a run of digits denotes; the empty run denotes zero. -/
def value (digits : DigitRun) : Nat := Nat.ofDigitChars 10 digits.chars 0

/-- The number of digits. -/
def length (digits : DigitRun) : Nat := digits.chars.length

/-- The digits of one run followed by those of another. -/
def append (first second : DigitRun) : DigitRun :=
  ⟨first.chars ++ second.chars, by simp [first.all_isDigit, second.all_isDigit]⟩

instance : Append DigitRun := ⟨append⟩

end DigitRun

end Reckoner
