import Reckoner.Json.Scalar

/-!
# Writing JSON texts

A document is written on one line without blanks, or indented with two blanks for each level. Both
write the same scalars. A float is written with the fewest digits that read back, of two equally
near ones the even one: positional with at least one place between a hundred-thousandth and ten
thousand million million, otherwise with an exponent that has a sign if it is positive. What is no
finite number is `null`.
-/

namespace Reckoner

namespace Json

namespace Number

/-- Digits and a positive number of places as a numeral with a point: all digits but the last
`places` stand before the point. Zeros fill the places and the digit before them. -/
def withPlaces (coefficient places : Nat) : Numeral where
  whole := DigitRun.ofNat (coefficient / Nat.pow 10 places)
  fraction := some (DigitRun.padded places (coefficient % Nat.pow 10 places))
  exponent := none
  whole_ne_nil := DigitRun.ofNat_ne_nil _

/-- A decimal number between the bounds of positional notation; whole numbers get one zero as a
place. -/
def positional (number : Decimal) : Numeral :=
  if 0 ≤ number.exponent then
    withPlaces (number.coefficient * Nat.pow 10 (number.exponent.toNat + 1)) 1
  else withPlaces number.coefficient number.exponent.natAbs

/-- The exponent that is written for a power of ten. -/
def exponentOf (power : Int) : Exponent where
  isCapital := false
  sign := some (if power < 0 then .minus else .plus)
  digits := DigitRun.ofNat power.natAbs
  digits_ne_nil := DigitRun.ofNat_ne_nil _

/-- A decimal number with one digit before the point and an exponent; without further digits there
is no point. -/
def scientific (number : Decimal) : Numeral :=
  let places := (Digits.ofNat number.coefficient).length - 1
  let exponent := exponentOf (number.exponent + places)
  if places = 0 then
    { (ofNat number.coefficient).numeral with exponent := some exponent }
  else { withPlaces number.coefficient places with exponent := some exponent }

/-- Whether a decimal number is written without exponent, by the power of ten of its first digit. -/
def isPositional (number : Decimal) : Bool :=
  let power := number.exponent + (Digits.ofNat number.coefficient).length - 1
  number.coefficient == 0 || decide (-5 ≤ power ∧ power < 16)

/-- The number that is written for a finite float. -/
def ofFloat? (value : Float) : Option Number :=
  match Binary64.ofFloat value with
  | .finite negative significand exponent =>
      let number := Decimal.shortest .toEven significand exponent
      some ⟨negative, if isPositional number then positional number else scientific number⟩
  | .infinite _ | .notANumber => none

end Number

namespace Scalar

/-- The scalar of a float. -/
def ofFloat (value : Float) : Scalar :=
  match Number.ofFloat? value with
  | some literal => .number literal
  | none => .null

/-- The scalar of a natural number. -/
def ofNat (value : Nat) : Scalar := .number (Number.ofNat value)

/-- The hexadecimal digits of a control character. -/
def controlCode (letter : Char) : List Char :=
  let digits := Nat.toDigits 16 letter.toNat
  '\\' :: 'u' :: List.replicate (4 - digits.length) '0' ++ digits

/-- A character inside quotes. -/
def quotedChar (letter : Char) : List Char :=
  if letter = '"' then ['\\', '"']
  else if letter = '\\' then ['\\', '\\']
  else if letter = '\x08' then ['\\', 'b']
  else if letter = '\x0c' then ['\\', 'f']
  else if letter = '\n' then ['\\', 'n']
  else if letter = '\r' then ['\\', 'r']
  else if letter = '\t' then ['\\', 't']
  else if letter.toNat < 0x20 then controlCode letter
  else [letter]

/-- A text in quotes. -/
def quoted (text : String) : List Char := '"' :: text.toList.flatMap quotedChar ++ ['"']

/-- The written form of a scalar. -/
def written : Scalar → List Char
  | null => ['n', 'u', 'l', 'l']
  | flag true => ['t', 'r', 'u', 'e']
  | flag false => ['f', 'a', 'l', 's', 'e']
  | number value => value.text
  | text value => quoted value

end Scalar

/-- How the parts of a document are set apart. -/
structure Layout where
  /-- What stands before an item at a level, and before a closing bracket. -/
  lineBreak : Nat → List Char
  /-- What stands between the name of a field and its value. -/
  colon : List Char

/-- All on one line. -/
def Layout.compact : Layout := ⟨fun _ => [], [':']⟩

/-- One line for each item. -/
def Layout.indented : Layout :=
  ⟨fun level => '\n' :: List.replicate (2 * level) ' ', [':', ' ']⟩

/-- Items with commas between them, each on its line. -/
def Layout.separated (layout : Layout) (level : Nat) (items : List (List Char)) : List Char :=
  [','].intercalate (items.map fun item => layout.lineBreak (level + 1) ++ item)

/-- Items between brackets; without items nothing stands between them. -/
def Layout.bracketed (layout : Layout) (level : Nat) (opening closing : Char)
    (items : List (List Char)) : List Char :=
  if items.isEmpty then [opening, closing]
  else opening :: layout.separated level items ++ layout.lineBreak level ++ [closing]

mutual

/-- The text of a document at a level. -/
def write (layout : Layout) (level : Nat) : Document Scalar → List Char
  | .scalar value => value.written
  | .list items => layout.bracketed level '[' ']' (writeItems layout (level + 1) items)
  | .fields entries =>
      layout.bracketed level '\x7b' '\x7d' (writeEntries layout (level + 1) entries)

/-- The texts of the items of a list. -/
def writeItems (layout : Layout) (level : Nat) : List (Document Scalar) → List (List Char)
  | [] => []
  | item :: items => write layout level item :: writeItems layout level items

/-- The texts of named fields. -/
def writeEntries (layout : Layout) (level : Nat) :
    List (Document Scalar × Document Scalar) → List (List Char)
  | [] => []
  | (name, value) :: entries =>
      (write layout level name ++ layout.colon ++ write layout level value) ::
        writeEntries layout level entries

end

/-- The text of a document on one line. -/
def compact (document : Document Scalar) : List Char := write .compact 0 document

/-- The text of a document with one line for each item. -/
def indented (document : Document Scalar) : List Char := write .indented 0 document

end Json

end Reckoner
