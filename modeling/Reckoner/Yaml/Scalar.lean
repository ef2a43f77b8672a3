import Reckoner.Decimal.Reading
import Reckoner.Record.Reading
import Reckoner.Text.Blank

/-!
# Scalars of YAML texts

A scalar is the text between quotes or a plain text. What it stands for depends on what is asked
for: the same text can be read as a number, a truth value or a text. Quotes only keep a text from
being empty.
-/

namespace Reckoner

namespace Yaml

/-- A scalar of a YAML text. -/
structure Scalar where
  content : List Char
  isQuoted : Bool
  deriving DecidableEq

namespace Scalar

/-- The plain scalar that is not there. -/
def absent : Scalar := ⟨[], false⟩

/-- Whether a scalar stands for nothing. -/
def isNull (scalar : Scalar) : Bool :=
  !scalar.isQuoted &&
    (scalar.content == [] || scalar.content == ['~'] ||
      scalar.content.map Char.toLower == ['n', 'u', 'l', 'l'])

/-- The text of a scalar without white space at its ends. -/
def trimmed (scalar : Scalar) : List Char := Text.trim scalar.content

/-- The words for values that are no finite numbers. -/
def specialReal? (word : List Char) : Option Float :=
  let unsigned :=
    match word with
    | '+' :: rest | '-' :: rest => rest
    | _ => word
  if unsigned = ['.', 'n', 'a', 'n'] then some Binary64.nan
  else if word = ['.', 'i', 'n', 'f'] ∨ word = ['+', '.', 'i', 'n', 'f'] then
    some (Binary64.infinity false)
  else if word = ['-', '.', 'i', 'n', 'f'] then some (Binary64.infinity true)
  else none

/-- The float that a scalar denotes. -/
def real? (scalar : Scalar) : Option Float :=
  match specialReal? (scalar.trimmed.map Char.toLower) with
  | some value => some value
  | none => Decimal.floatOfText? scalar.trimmed

/-- The value of a digit in a base. -/
def digit? (base : Nat) (letter : Char) : Option Nat :=
  let value :=
    if letter.isDigit then letter.toNat - '0'.toNat
    else if letter.isAlpha then letter.toLower.toNat - 'a'.toNat + 10
    else base
  if value < base then some value else none

/-- The natural number of digits in a base, of which there is at least one; underscores are
ignored. -/
def digitsValue? (base : Nat) (text : List Char) : Option Nat :=
  let digits := text.filter (· != '_')
  if digits.isEmpty then none
  else digits.foldlM (fun total letter => (digit? base letter).map (total * base + ·)) 0

/-- The natural number of an unsigned text, which may name its base. -/
def unsigned? : List Char → Option Nat
  | '0' :: 'x' :: digits | '0' :: 'X' :: digits => digitsValue? 16 digits
  | '0' :: 'o' :: digits | '0' :: 'O' :: digits => digitsValue? 8 digits
  | '0' :: 'b' :: digits | '0' :: 'B' :: digits => digitsValue? 2 digits
  | digits => digitsValue? 10 digits

/-- The natural number that a scalar denotes. -/
def natural? (scalar : Scalar) : Option Nat :=
  match scalar.trimmed with
  | '+' :: rest => unsigned? rest
  | text => unsigned? text

/-- The words for truth. -/
def trueWords : List String := ["true", "yes", "y", "on"]

/-- The words for falsehood. -/
def falseWords : List String := ["false", "no", "n", "off"]

/-- The truth value that a scalar denotes. -/
def flag? (scalar : Scalar) : Option Bool :=
  let word := String.ofList (scalar.trimmed.map Char.toLower)
  if word ∈ trueWords then some true
  else if word ∈ falseWords then some false
  else none

/-- The text of a scalar. -/
def text? (scalar : Scalar) : Option String := some (String.ofList scalar.content)

end Scalar

/-- How records are written in YAML. -/
def dialect : Dialect Scalar where
  real? := Scalar.real?
  natural? := Scalar.natural?
  flag? := Scalar.flag?
  text? := Scalar.text?
  isNull := Scalar.isNull
  listsAreRecords := false
  nullIsEmptyList := true

end Yaml

end Reckoner
