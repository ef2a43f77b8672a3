import Reckoner.Json.Scalar

/-!
# Reading JSON texts

The reader takes exactly the grammar of JSON: no comments, no comma after the last item, no control
character inside quotes. What follows the document must be blank.

The reader goes down into lists and fields with a bound on its steps. Every step takes at least one
character or goes from a document to its first item, so a bound of twice the length of the text is
never reached.
-/

namespace Reckoner

namespace Json

namespace Reader

/-- Whether a character may stand between the parts of a text. -/
def isBlank (letter : Char) : Bool :=
  letter == ' ' || letter == '\t' || letter == '\n' || letter == '\r'

/-- What follows the blanks at the start of a text. -/
def skipBlanks (text : List Char) : List Char := text.dropWhile isBlank

/-- The value of a hexadecimal digit. -/
def hexDigit? (letter : Char) : Option Nat :=
  if letter.isDigit then some (letter.toNat - '0'.toNat)
  else if 'a' ≤ letter ∧ letter ≤ 'f' then some (letter.toNat - 'a'.toNat + 10)
  else if 'A' ≤ letter ∧ letter ≤ 'F' then some (letter.toNat - 'A'.toNat + 10)
  else none

/-- The value of four hexadecimal digits, and what follows them. -/
def hexUnit? : List Char → Option (Nat × List Char)
  | first :: second :: third :: fourth :: rest => do
      let high := (← hexDigit? first) * 16 + (← hexDigit? second)
      let low := (← hexDigit? third) * 16 + (← hexDigit? fourth)
      return (high * 256 + low, rest)
  | _ => none

/-- Whether a 16-bit unit is the first half of a pair. -/
def isHighSurrogate (unit : Nat) : Bool := decide (0xD800 ≤ unit ∧ unit < 0xDC00)

/-- Whether a 16-bit unit is the second half of a pair. -/
def isLowSurrogate (unit : Nat) : Bool := decide (0xDC00 ≤ unit ∧ unit < 0xE000)

/-- The character that 16-bit units escape, and what follows them. Half of a pair alone is no
character. -/
def escapedUnits? (text : List Char) : Option (Option Char × List Char) :=
  match hexUnit? text with
  | none => none
  | some (unit, rest) =>
      if isLowSurrogate unit then some (none, rest)
      else if isHighSurrogate unit then
        match rest with
        | '\\' :: 'u' :: second =>
            match hexUnit? second with
            | some (low, left) =>
                if isLowSurrogate low then
                  let letter := Char.ofNat (0x10000 + (unit - 0xD800) * 0x400 + (low - 0xDC00))
                  some (some letter, left)
                else some (none, rest)
            | none => none
        | _ => some (none, rest)
      else some (some (Char.ofNat unit), rest)

/-- The character that a letter after a backslash stands for, apart from 16-bit units. -/
def escaped? : Char → Option Char
  | '"' => some '"'
  | '\\' => some '\\'
  | '/' => some '/'
  | 'b' => some '\x08'
  | 'f' => some '\x0c'
  | 'n' => some '\n'
  | 'r' => some '\r'
  | 't' => some '\t'
  | _ => none

/-- One character of a text in quotes, and what follows it. -/
def quotedChar? : List Char → Option (Option Char × List Char)
  | '\\' :: 'u' :: rest => escapedUnits? rest
  | '\\' :: letter :: rest => (escaped? letter).map fun character => (some character, rest)
  | letter :: rest => if letter.toNat < 0x20 ∨ letter = '\\' then none else some (some letter, rest)
  | [] => none

/-- The rest of a text in quotes after its opening quote, last character first, and what follows its
closing quote. -/
def quotedRest? : (fuel : Nat) → (taken : List (Option Char)) → List Char →
    Option (List (Option Char) × List Char)
  | 0, _, _ => none
  | _ + 1, taken, '"' :: rest => some (taken, rest)
  | fuel + 1, taken, text =>
      match quotedChar? text with
      | some (character?, rest) => quotedRest? fuel (character? :: taken) rest
      | none => none

/-- A text in quotes, and what follows it. There is no text if one of its characters is none. -/
def quoted? : List Char → Option (Option String × List Char)
  | '"' :: rest =>
      (quotedRest? (rest.length + 1) [] rest).map fun (taken, left) =>
        ((taken.reverse.mapM id).map String.ofList, left)
  | _ => none

/-- A number, and what follows it. -/
def number? (text : List Char) : Option (Number × List Char) :=
  let negative := text.head? = some '-'
  match Numeral.read? (if negative then text.drop 1 else text) with
  | some (numeral, rest) =>
      if Number.isAdmissible numeral then some (⟨negative, numeral⟩, rest) else none
  | none => none

/-- A word, and what follows it. -/
def word? (word : List Char) (value : Scalar) (text : List Char) :
    Option (Option Scalar × List Char) :=
  if word.isPrefixOf text then some (some value, text.drop word.length) else none

/-- A scalar, and what follows it. Quotes around what is no text are no scalar. -/
def scalar? (text : List Char) : Option (Option Scalar × List Char) :=
  match text with
  | '"' :: _ => (quoted? text).map fun (value?, rest) => (value?.map Scalar.text, rest)
  | 'n' :: _ => word? ['n', 'u', 'l', 'l'] .null text
  | 't' :: _ => word? ['t', 'r', 'u', 'e'] (.flag true) text
  | 'f' :: _ => word? ['f', 'a', 'l', 's', 'e'] (.flag false) text
  | _ => (number? text).map fun (value, rest) => (some (.number value), rest)

mutual

/-- A document, and what follows it. -/
def document? : (fuel : Nat) → List Char → Option (Document (Option Scalar) × List Char)
  | 0, _ => none
  | fuel + 1, text =>
      match skipBlanks text with
      | '[' :: rest =>
          match skipBlanks rest with
          | ']' :: left => some (.list [], left)
          | items => (items? fuel [] items).map fun (items, left) => (.list items, left)
      | '\x7b' :: rest =>
          match skipBlanks rest with
          | '\x7d' :: left => some (.fields [], left)
          | entries => (entries? fuel [] entries).map fun (entries, left) => (.fields entries, left)
      | start => (scalar? start).map fun (value, left) => (.scalar value, left)

/-- The items of a list up to its closing bracket, and what follows it. -/
def items? : (fuel : Nat) → List (Document (Option Scalar)) → List Char →
    Option (List (Document (Option Scalar)) × List Char)
  | 0, _, _ => none
  | fuel + 1, taken, text =>
      match document? fuel text with
      | none => none
      | some (item, rest) =>
          match skipBlanks rest with
          | ',' :: left => items? fuel (item :: taken) left
          | ']' :: left => some ((item :: taken).reverse, left)
          | _ => none

/-- The named fields up to their closing brace, and what follows it. -/
def entries? : (fuel : Nat) → List (Document (Option Scalar) × Document (Option Scalar)) →
    List Char → Option (List (Document (Option Scalar) × Document (Option Scalar)) × List Char)
  | 0, _, _ => none
  | fuel + 1, taken, text =>
      match quoted? (skipBlanks text) with
      | none => none
      | some (name?, afterName) =>
          match skipBlanks afterName with
          | ':' :: beforeValue =>
              match document? fuel beforeValue with
              | none => none
              | some (value, rest) =>
                  let entry := (.scalar (name?.map Scalar.text), value)
                  match skipBlanks rest with
                  | ',' :: left => entries? fuel (entry :: taken) left
                  | '\x7d' :: left => some ((entry :: taken).reverse, left)
                  | _ => none
          | _ => none

end

end Reader

/-- The document of a JSON text. -/
def parse? (text : List Char) : Option (Document (Option Scalar)) :=
  match Reader.document? (2 * text.length + 2) text with
  | some (document, rest) => if Reader.skipBlanks rest = [] then some document else none
  | none => none

end Json

end Reckoner
