import Reckoner.Yaml.Cursor

/-!
# Texts over several lines

A plain scalar or a scalar in quotes may go on in later lines. The end of a line stands for a space,
and every further one in a row for itself; blanks around them stand for nothing. In double quotes a
backslash at the end of a line takes the end away.

A plain scalar ends before a colon that ends a name, before a comment and before the mark of a
document; between brackets also before a comma or a bracket, elsewhere also before a line that does
not reach a given column. Lines between quotes have to reach it too, unless brackets are open.
-/

namespace Reckoner

namespace Yaml

/-- A text that was read, and the place behind it. -/
structure Folded where
  content : List Char
  cursor : Cursor

/-- What stands for blanks followed by so many ends of lines. -/
def gap (blanks : List Char) : (breaks : Nat) → List Char
  | 0 => blanks
  | 1 => [' ']
  | breaks + 2 => List.replicate (breaks + 1) '\n'

namespace Plain

/-- Whether the text after a colon lets the colon end a name. -/
def endsName (isBracketed : Bool) (text : List Char) : Bool :=
  startsApart text || (isBracketed && (text.head?.map isMark).getD false)

/-- The number of characters of the word at the start of a text. -/
def wordLength (isBracketed : Bool) : List Char → Nat
  | [] => 0
  | letter :: rest =>
      if isBlank letter || isBreak letter || (letter == ':' && endsName isBracketed rest) ||
          (isBracketed && isMark letter) then 0
      else wordLength isBracketed rest + 1

/-- The place behind a word. Its characters count by their bytes, apart from the first one. -/
def passWord (length : Nat) (cursor : Cursor) : Cursor :=
  let tail := (cursor.rest.take length).drop 1
  { cursor.pass length with
    offset := cursor.offset + 1 + (String.ofList tail).utf8ByteSize }

/-- The number of ends of lines among the blanks that follow a word, and the place behind them. A
line that starts with a tab before the given column has nothing on it, except perhaps a comment. -/
def passGap? (column : Nat) : (fuel : Nat) → (breaks : Nat) → Cursor → Option (Nat × Cursor)
  | 0, _, _ => none
  | fuel + 1, breaks, cursor =>
      match cursor.rest with
      | [] => some (breaks, cursor)
      | letter :: _ =>
          if isBreak letter then passGap? column fuel (breaks + 1) cursor.breakLine
          else if !isBlank letter then some (breaks, cursor)
          else if 0 < breaks ∧ letter = '\t' ∧ cursor.column < column then
            match cursor.passComment? with
            | some next => if next.isAtBreak then passGap? column fuel breaks next else none
            | none => none
          else passGap? column fuel breaks cursor.passBlank

/-- Whether a hyphen stands alone before a comma or a bracket, where no scalar can start. -/
def isLoneHyphen : List Char → Bool
  | '-' :: next :: _ => isMark next
  | _ => false

/-- The rest of a plain scalar, with what stands for the blanks before it. -/
def rest? (isBracketed : Bool) (column : Nat) : (fuel : Nat) → (taken before : List Char) → Cursor →
    Option Folded
  | 0, _, _, _ => none
  | fuel + 1, taken, before, cursor =>
      if cursor.isAtDocumentMark || cursor.rest.head? == some '#' then some ⟨taken, cursor⟩
      else if isBracketed && isLoneHyphen cursor.rest then none
      else
        let length := wordLength isBracketed cursor.rest
        if length = 0 then some ⟨taken, cursor⟩
        else
          let content := taken ++ before ++ cursor.rest.take length
          let behind := passWord length cursor
          if !startsApart behind.rest then some ⟨content, behind⟩
          else
            match passGap? column (behind.rest.length + 1) 0 behind with
            | none => none
            | some (breaks, next) =>
                if !isBracketed && decide (next.column < column) then some ⟨content, next⟩
                else rest? isBracketed column fuel content (gap behind.blanks breaks) next

end Plain

/-- The plain scalar at a place, which must not be empty. -/
def plain? (isBracketed : Bool) (column : Nat) (cursor : Cursor) : Option Folded :=
  (Plain.rest? isBracketed column (cursor.rest.length + 1) [] [] cursor).filter fun read =>
    !read.content.isEmpty

namespace Quoted

/-- The character that a letter after a backslash stands for. -/
def escaped? (letter : Char) : Option Char :=
  match letter with
  | '0' => some '\x00'
  | 'a' => some '\x07'
  | 'b' => some '\x08'
  | 't' | '\t' => some '\t'
  | 'n' => some '\n'
  | 'v' => some '\x0b'
  | 'f' => some '\x0c'
  | 'r' => some '\r'
  | 'e' => some '\x1b'
  | ' ' => some ' '
  | '"' => some '"'
  | '/' => some '/'
  | '\\' => some '\\'
  | 'N' => some '\u0085'
  | '_' => some '\u00a0'
  | 'L' => some '\u2028'
  | 'P' => some '\u2029'
  | _ => none

/-- The number of hexadecimal digits that follow a letter after a backslash. -/
def escapeWidth? : Char → Option Nat
  | 'x' => some 2
  | 'u' => some 4
  | 'U' => some 8
  | _ => none

/-- The value of a hexadecimal digit. -/
def hexDigit? (letter : Char) : Option Nat :=
  if letter.isDigit then some (letter.toNat - '0'.toNat)
  else if 'a' ≤ letter.toLower ∧ letter.toLower ≤ 'f' then
    some (letter.toLower.toNat - 'a'.toNat + 10)
  else none

/-- The character of hexadecimal digits, if there is one. -/
def escapedCode? (digits : List Char) : Option Char :=
  match digits.foldlM (fun total letter => (hexDigit? letter).map (total * 16 + ·)) 0 with
  | some code => if code.isValidChar then some (Char.ofNat code) else none
  | none => none

/-- The character that a text behind a backslash stands for, and the number of characters that say
so. -/
def escape? : List Char → Option (Char × Nat)
  | [] => none
  | letter :: rest =>
      match escapeWidth? letter with
      | some width =>
          if rest.length < width then none
          else (escapedCode? (rest.take width)).map fun character => (character, width + 1)
      | none => (escaped? letter).map fun character => (character, 1)

/-- Whether the closing quote stands at the start of a text. -/
def isClosed (quote : Char) (text : List Char) : Bool := text.head? == some quote

/-- Characters up to the next blank, end of a line or closing quote, last character first, the place
behind them, and whether an end of a line was taken away there. -/
def word? (quote : Char) : (fuel : Nat) → (taken : List Char) → Cursor →
    Option (List Char × Cursor × Bool)
  | 0, _, _ => none
  | fuel + 1, taken, cursor =>
      if startsApart cursor.rest then some (taken, cursor, false)
      else
        match quote, cursor.rest with
        | '\'', '\'' :: '\'' :: _ => word? quote fuel ('\'' :: taken) (cursor.pass 2)
        | '\'', letter :: _ =>
            if letter = '\'' then some (taken, cursor, false)
            else word? quote fuel (letter :: taken) (cursor.pass 1)
        | _, '\\' :: next :: rest =>
            if isBreak next then some (taken, (cursor.pass 1).breakLine, true)
            else
              match escape? (next :: rest) with
              | some (character, count) =>
                  word? quote fuel (character :: taken) (cursor.pass (count + 1))
              | none => none
        | _, letter :: _ =>
            if letter = '"' then some (taken, cursor, false)
            else if letter = '\\' then none
            else word? quote fuel (letter :: taken) (cursor.pass 1)
        | _, [] => none

/-- The number of ends of lines among the blanks that follow a word, and the place behind them. A
line does not start with a tab before the given column. -/
def passGap? (column : Nat) : (fuel : Nat) → (isBroken : Bool) → (breaks : Nat) → Cursor →
    Option (Nat × Cursor)
  | 0, _, _, _ => none
  | fuel + 1, isBroken, breaks, cursor =>
      match cursor.rest with
      | [] => some (breaks, cursor)
      | letter :: _ =>
          if isBreak letter then passGap? column fuel true (breaks + 1) cursor.breakLine
          else if !isBlank letter then some (breaks, cursor)
          else if isBroken && letter == '\t' && decide (cursor.column + 1 < column) then none
          else passGap? column fuel isBroken breaks cursor.passBlank

/-- The rest of a scalar in quotes. -/
def rest? (quote : Char) (isBracketed : Bool) (column : Nat) : (fuel : Nat) → (taken : List Char) →
    Cursor → Option Folded
  | 0, _, _ => none
  | fuel + 1, taken, cursor =>
      if cursor.isAtDocumentMark || cursor.rest.isEmpty then none
      else
        match word? quote (cursor.rest.length + 1) [] cursor with
        | none => none
        | some (word, behind, isJoined) =>
            let content := taken ++ word.reverse
            if isClosed quote behind.rest then some ⟨content, behind.pass 1⟩
            else
              match passGap? column (behind.rest.length + 1) isJoined 0 behind with
              | none => none
              | some (breaks, next) =>
                  if (isJoined || decide (0 < breaks)) && !isBracketed &&
                      !isClosed quote next.rest && decide (next.column < column) then none
                  else
                    let between :=
                      if isJoined then List.replicate breaks '\n' else gap behind.blanks breaks
                    rest? quote isBracketed column fuel (content ++ between) next

end Quoted

/-- The scalar in quotes at a place, which starts with a quote. -/
def quoted? (quote : Char) (isBracketed : Bool) (column : Nat) (cursor : Cursor) : Option Folded :=
  Quoted.rest? quote isBracketed column (cursor.rest.length + 1) [] (cursor.pass 1)

end Yaml

end Reckoner
