import Reckoner.Calendar.Date
import Reckoner.Decimal.Reading
import Reckoner.Text.Parts

/-!
# Reading a date from a text

A date is written as year, month and day, with hyphens between them or without. A year has four
digits, or a sign and six digits. A time of day may follow, with an offset and with notes in
brackets; they do not change the date. The mark of universal time is refused, since it names an
instant and not a day.
-/

namespace Reckoner

namespace Date

namespace Text

/-- A reader takes something from the start of a text and leaves the rest. -/
abbrev Reader (α : Type) := List Char → Option (α × List Char)

/-- A number of exactly as many digits as given. -/
def number (digits : Nat) : Reader Int := fun text =>
  let taken := text.take digits
  if taken.length = digits ∧ taken.all Char.isDigit then
    some (Nat.ofDigitChars 10 taken 0, text.drop digits)
  else none

/-- A number of exactly two digits up to a bound. -/
def boundedPair (greatest : Int) : Reader Int := fun text =>
  match number 2 text with
  | some (value, rest) => if value ≤ greatest then some (value, rest) else none
  | none => none

/-- A given character. -/
def character (expected : Char) : Reader Unit
  | [] => none
  | first :: rest => if first = expected then some ((), rest) else none

/-- A year. Minus zero is no year. -/
def year : Reader Int
  | '+' :: rest => number 6 rest
  | '-' :: rest =>
      match number 6 rest with
      | some (value, left) => if value = 0 then none else some (-value, left)
      | none => none
  | text => number 4 text

/-- A date with hyphens between its parts or without any. -/
def date : Reader Date := fun text => do
  let (yearNumber, afterYear) ← year text
  let isExtended := afterYear.head? = some '-'
  let beforeMonth := if isExtended then afterYear.drop 1 else afterYear
  let (monthNumber, afterMonth) ← number 2 beforeMonth
  let beforeDay ← if isExtended then (character '-' afterMonth).map Prod.snd else some afterMonth
  let (dayNumber, rest) ← number 2 beforeDay
  let found ← ofTriple? yearNumber monthNumber dayNumber
  return (found, rest)

/-- A fraction of a second of one to nine digits, if one follows. -/
def skipFraction : List Char → Option (List Char)
  | mark :: rest =>
      if mark = '.' ∨ mark = ',' then
        let digits := (DigitRun.takeFrom rest).length
        if 1 ≤ digits ∧ digits ≤ 9 then some (DigitRun.dropFrom rest) else none
      else some (mark :: rest)
  | [] => some []

/-- Minutes and seconds, each of which may be left out together with what follows it. -/
def skipMinutes (greatestSecond : Int) (text : List Char) : Option (List Char) :=
  let startsPair (rest : List Char) : Bool := (rest.head?.map Char.isDigit).getD false
  let isExtended := text.head? = some ':'
  if isExtended || startsPair text then do
    let (_, afterMinute) ← boundedPair 59 (if isExtended then text.drop 1 else text)
    let hasSecond := if isExtended then afterMinute.head? = some ':' else startsPair afterMinute
    if hasSecond then do
      let beforeSecond := if isExtended then afterMinute.drop 1 else afterMinute
      let (_, afterSecond) ← boundedPair greatestSecond beforeSecond
      skipFraction afterSecond
    else some afterMinute
  else some text

/-- A time of day. -/
def skipTime (text : List Char) : Option (List Char) := do
  let (_, rest) ← boundedPair 23 text
  skipMinutes 60 rest

/-- An offset from universal time, if one follows. -/
def skipOffset : List Char → Option (List Char)
  | mark :: rest =>
      if mark = '+' ∨ mark = '-' then do
        let (_, afterHour) ← boundedPair 25 rest
        skipMinutes 59 afterHour
      else if mark = 'Z' ∨ mark = 'z' then none
      else some (mark :: rest)
  | [] => some []

/-! ## Notes -/

/-- Whether a word is not empty and made of given characters, perhaps fewer of which may start
it. -/
def isWord (starts continues : Char → Bool) : List Char → Bool
  | [] => false
  | first :: rest => starts first && rest.all continues

/-- Whether a note gives an offset from universal time in hours and perhaps minutes. -/
def isOffset : List Char → Bool
  | mark :: rest =>
      let isMinute (text : List Char) : Bool := (boundedPair 59 text).any fun read => read.2.isEmpty
      (mark == '+' || mark == '-') &&
        (match boundedPair 25 rest with
          | some (_, []) => true
          | some (_, ':' :: minutes) | some (_, minutes) => isMinute minutes
          | none => false)
  | [] => false

/-- Whether a note names a time zone. -/
def isZone (note : List Char) : Bool :=
  let starts (letter : Char) : Bool := letter.isAlpha || letter == '_' || letter == '.'
  let continues (letter : Char) : Bool :=
    starts letter || letter.isDigit || letter == '+' || letter == '-'
  (Reckoner.Text.parts '/' note).all (isWord starts continues)

/-- Whether a note gives values to a key. -/
def isSetting (note : List Char) : Bool :=
  let starts (letter : Char) : Bool := letter.isLower || letter == '_'
  let continues (letter : Char) : Bool := starts letter || letter.isDigit || letter == '-'
  let values := (note.dropWhile (· != '=')).drop 1
  isWord starts continues (note.takeWhile (· != '=')) &&
    (Reckoner.Text.parts '-' values).all (isWord Char.isAlphanum Char.isAlphanum)

/-- Whether a note may stand first: it gives the time zone, which may be marked as binding, or it is
a setting, which may not, since no setting is understood. -/
def isFirstNote (note : List Char) : Bool :=
  let zone :=
    match note with
    | '!' :: rest => rest
    | _ => note
  isOffset zone || isZone zone || isSetting note

/-- The notes in brackets that make up a text. -/
def notes? : List Char → Option (List (List Char))
  | [] => some []
  | '[' :: rest =>
      match _behind : rest.dropWhile (· != ']') with
      | _ :: left => (notes? left).map (rest.takeWhile (· != ']') :: ·)
      | [] => none
  | _ => none
termination_by text => text.length
decreasing_by
  have shorter := (List.dropWhile_suffix (l := rest) (· != ']')).length_le
  rw [_behind] at shorter
  simp only [List.length_cons] at shorter ⊢
  omega

/-- Whether a text consists of notes in brackets, the first of which may give the time zone and all
others of which are settings. -/
def isNotes (text : List Char) : Bool :=
  match notes? text with
  | some [] => true
  | some (first :: others) => isFirstNote first && others.all isSetting
  | none => false

/-- Whether a text may follow a date. -/
def isIgnorable (text : List Char) : Bool :=
  match text with
  | [] => true
  | mark :: rest =>
      if mark = 'T' ∨ mark = 't' ∨ mark = ' ' then
        match skipTime rest >>= skipOffset with
        | some left => isNotes left
        | none => false
      else isNotes text

end Text

/-- The date that a text denotes. -/
def ofText? (text : List Char) : Option Date :=
  match Text.date text with
  | some (found, rest) => if Text.isIgnorable rest then some found else none
  | none => none

end Date

end Reckoner
