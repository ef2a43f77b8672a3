import Reckoner.Decimal
import Reckoner.Sign

/-!
# Numerals

A numeral is an unsigned number as it is written: digits, then perhaps a point with perhaps more
digits, then perhaps an exponent. The numeral keeps its written form; its value is the float nearest
to the decimal number it denotes, which is infinite if the exponent is large enough.

Reading takes the longest numeral. A letter `e` that no digits follow is no exponent and is left
unread.
-/

namespace Reckoner

/-- The exponent of a numeral: its letter, perhaps a sign, and at least one digit. -/
structure Exponent where
  isCapital : Bool
  sign : Option Sign
  digits : DigitRun
  digits_ne_nil : digits.chars ≠ []
  deriving DecidableEq

namespace Exponent

/-- The written form of a sign that may be left out. -/
def signText : Option Sign → List Char
  | some .plus => ['+']
  | some .minus => ['-']
  | none => []

/-- The written form of an exponent. -/
def text (exponent : Exponent) : List Char :=
  (if exponent.isCapital then 'E' else 'e') :: signText exponent.sign ++ exponent.digits.chars

/-- The power of ten that an exponent stands for. -/
def value (exponent : Exponent) : Int :=
  match exponent.sign with
  | some .minus => -(exponent.digits.value : Int)
  | some .plus | none => exponent.digits.value

/-- The sign at the start of a text, and what follows it. -/
def readSign : List Char → Option Sign × List Char
  | '+' :: rest => (some .plus, rest)
  | '-' :: rest => (some .minus, rest)
  | text => (none, text)

/-- The exponent that follows its letter. -/
def readAfterLetter? (isCapital : Bool) (text : List Char) : Option (Exponent × List Char) :=
  let (sign, unsigned) := readSign text
  let digits := DigitRun.takeFrom unsigned
  if digits_ne_nil : digits.chars ≠ [] then
    some (⟨isCapital, sign, digits, digits_ne_nil⟩, DigitRun.dropFrom unsigned)
  else none

/-- The exponent at the start of a text, and what follows it. -/
def read? : List Char → Option (Exponent × List Char)
  | 'e' :: rest => readAfterLetter? false rest
  | 'E' :: rest => readAfterLetter? true rest
  | _ => none

/-- Nothing is lost between a sign and what follows it. -/
theorem readSign_append (text : List Char) :
    signText (readSign text).1 ++ (readSign text).2 = text := by
  unfold readSign
  split <;> rfl

/-- Nothing is lost between an exponent and what follows it. -/
theorem text_append_of_readAfterLetter? {isCapital : Bool} {text rest : List Char}
    {exponent : Exponent} (reads : readAfterLetter? isCapital text = some (exponent, rest)) :
    exponent.text ++ rest = (if isCapital then 'E' else 'e') :: text := by
  simp only [readAfterLetter?] at reads
  split at reads
  · simp only [Option.some.injEq, Prod.mk.injEq] at reads
    obtain ⟨rfl, rfl⟩ := reads
    simp only [Exponent.text, List.cons_append, List.append_assoc]
    rw [DigitRun.takeFrom_append_dropFrom, readSign_append]
  · simp at reads

/-- Nothing is lost between an exponent and what follows it. -/
theorem text_append_of_read? {text rest : List Char} {exponent : Exponent}
    (reads : read? text = some (exponent, rest)) : exponent.text ++ rest = text := by
  unfold read? at reads
  split at reads
  · exact text_append_of_readAfterLetter? reads
  · exact text_append_of_readAfterLetter? reads
  · simp at reads

end Exponent

/-- An unsigned number as it is written; a fraction is a point with perhaps no digits after it. -/
structure Numeral where
  whole : DigitRun
  fraction : Option DigitRun
  exponent : Option Exponent
  whole_ne_nil : whole.chars ≠ []
  deriving DecidableEq

namespace Numeral

/-- The written form of a fraction that may be left out. -/
def fractionText : Option DigitRun → List Char
  | some digits => '.' :: digits.chars
  | none => []

/-- The written form of an exponent that may be left out. -/
def exponentText : Option Exponent → List Char
  | some exponent => exponent.text
  | none => []

/-- The written form of a numeral. -/
def text (numeral : Numeral) : List Char :=
  numeral.whole.chars ++ fractionText numeral.fraction ++ exponentText numeral.exponent

/-- The decimal number of digits before the point, digits after the point and an exponent. -/
def decimalOf (whole : DigitRun) (fraction : Option DigitRun) (exponent : Option Exponent) :
    Decimal :=
  let places := fraction.getD DigitRun.empty
  ⟨(whole ++ places).value, (exponent.map Exponent.value).getD 0 - places.length⟩

/-- The decimal number that a numeral denotes. -/
def toDecimal (numeral : Numeral) : Decimal :=
  decimalOf numeral.whole numeral.fraction numeral.exponent

/-- The float nearest to the decimal number that a numeral denotes. -/
def value (numeral : Numeral) : Float := numeral.toDecimal.toFloat false

/-- The fraction at the start of a text, and what follows it. -/
def readFraction : List Char → Option DigitRun × List Char
  | '.' :: rest => (some (DigitRun.takeFrom rest), DigitRun.dropFrom rest)
  | text => (none, text)

/-- The exponent at the start of a text if one stands there, and what follows. -/
def readExponent (text : List Char) : Option Exponent × List Char :=
  match Exponent.read? text with
  | some (exponent, rest) => (some exponent, rest)
  | none => (none, text)

/-- The longest numeral at the start of a text, and what follows it. -/
def read? (text : List Char) : Option (Numeral × List Char) :=
  let whole := DigitRun.takeFrom text
  if whole_ne_nil : whole.chars ≠ [] then
    let (fraction, afterFraction) := readFraction (DigitRun.dropFrom text)
    let (exponent, rest) := readExponent afterFraction
    some (⟨whole, fraction, exponent, whole_ne_nil⟩, rest)
  else none

/-- Nothing is lost between a fraction, if there is one, and what follows. -/
theorem readFraction_append (text : List Char) :
    fractionText (readFraction text).1 ++ (readFraction text).2 = text := by
  unfold readFraction
  split
  · simp [fractionText, DigitRun.takeFrom_append_dropFrom]
  · rfl

/-- Nothing is lost between an exponent, if there is one, and what follows. -/
theorem readExponent_append (text : List Char) :
    exponentText (readExponent text).1 ++ (readExponent text).2 = text := by
  unfold readExponent
  split
  · next reads => exact Exponent.text_append_of_read? reads
  · rfl

/-- Nothing is lost between a numeral and what follows it. -/
theorem text_append_of_read? {text rest : List Char} {numeral : Numeral}
    (reads : read? text = some (numeral, rest)) : numeral.text ++ rest = text := by
  simp only [read?] at reads
  split at reads
  · simp only [Option.some.injEq, Prod.mk.injEq] at reads
    obtain ⟨rfl, rfl⟩ := reads
    simp only [Numeral.text, List.append_assoc]
    rw [readExponent_append, readFraction_append, DigitRun.takeFrom_append_dropFrom]
  · simp at reads

/-- A numeral takes at least one character. -/
theorem length_lt_of_read? {text rest : List Char} {numeral : Numeral}
    (reads : read? text = some (numeral, rest)) : rest.length < text.length := by
  have whole_pos := List.length_pos_iff.mpr numeral.whole_ne_nil
  rw [← text_append_of_read? reads]
  simp only [Numeral.text, List.length_append]
  omega

end Numeral

end Reckoner
