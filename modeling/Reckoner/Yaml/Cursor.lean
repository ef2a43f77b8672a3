/-!
# Places in YAML texts

A cursor is a place in a text: what follows it, and where on which line it stands. A line ends with
a line feed, a carriage return or both.
-/

namespace Reckoner

namespace Yaml

/-- Whether a character separates words on a line. -/
def isBlank (letter : Char) : Bool := letter == ' ' || letter == '\t'

/-- Whether a character ends a line. -/
def isBreak (letter : Char) : Bool := letter == '\n' || letter == '\r'

/-- Whether a character opens, closes or separates between brackets. -/
def isMark (letter : Char) : Bool :=
  letter == ',' || letter == '[' || letter == ']' || letter == '\x7b' || letter == '\x7d'

/-- Whether a text starts with a blank or its first line is at its end. -/
def startsApart : List Char → Bool
  | [] => true
  | first :: _ => isBlank first || isBreak first

/-- A place in a text. -/
structure Cursor where
  /-- The text that follows. -/
  rest : List Char
  line : Nat
  column : Nat
  /-- How far the place is from the start of the text. -/
  offset : Nat
  /-- Whether only blanks stand before the place on its line. -/
  isFresh : Bool
  deriving DecidableEq

namespace Cursor

/-- The start of a text. -/
def start (text : List Char) : Cursor := ⟨text, 0, 0, 0, true⟩

/-- The place behind so many characters of the line, which are not all blank. -/
def pass (cursor : Cursor) (count : Nat) : Cursor :=
  { cursor with
    rest := cursor.rest.drop count
    column := cursor.column + count
    offset := cursor.offset + count
    isFresh := false }

/-- The place behind one blank. -/
def passBlank (cursor : Cursor) : Cursor := { cursor.pass 1 with isFresh := cursor.isFresh }

/-- The place behind the characters of the line that satisfy a condition and are passed like
blanks. -/
def passWhile (condition : Char → Bool) (cursor : Cursor) : Cursor :=
  { cursor.pass (cursor.rest.takeWhile condition).length with isFresh := cursor.isFresh }

/-- The end of the line. -/
def passLine (cursor : Cursor) : Cursor := cursor.passWhile (!isBreak ·)

/-- The start of the next line, for a place at the end of a line. -/
def breakLine (cursor : Cursor) : Cursor :=
  let count :=
    match cursor.rest with
    | '\r' :: '\n' :: _ => 2
    | _ => 1
  { rest := cursor.rest.drop count
    line := cursor.line + 1
    column := 0
    offset := cursor.offset + count
    isFresh := true }

/-- The blanks that follow. -/
def blanks (cursor : Cursor) : List Char := cursor.rest.takeWhile isBlank

/-- Whether the line is at its end. -/
def isAtBreak (cursor : Cursor) : Bool :=
  match cursor.rest with
  | [] => true
  | first :: _ => isBreak first

/-- The place behind blanks and perhaps a comment, which must have a blank before it. -/
def passComment? (cursor : Cursor) : Option Cursor :=
  let next := cursor.passWhile isBlank
  match next.rest with
  | '#' :: _ => if cursor.blanks.isEmpty then none else some next.passLine
  | _ => some next

/-- Whether a mark of a document stands at the place, alone in the first columns of a line. -/
def isAt (mark : List Char) (cursor : Cursor) : Bool :=
  cursor.column == 0 && mark.isPrefixOf cursor.rest && startsApart (cursor.rest.drop mark.length)

/-- The mark of the start of a document. -/
def startMark : List Char := ['-', '-', '-']

/-- The mark of the end of a document. -/
def endMark : List Char := ['.', '.', '.']

/-- Whether a document starts or ends at the place. -/
def isAtDocumentMark (cursor : Cursor) : Bool := cursor.isAt startMark || cursor.isAt endMark

end Cursor

end Yaml

end Reckoner
