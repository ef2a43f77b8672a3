import Reckoner.Expression.Fault
import Reckoner.Expression.Symbol
import Reckoner.Numeral

/-!
# Lexemes

The lexical units of an expression and how they are read from a text. Whether a plus or minus is a
sign or an operator is not decided here, since it depends on what stands before it.

A name is a run of ASCII letters that ends before the letter of the unknown, so `modx` is an
operator and an unknown. Reading stops at the first fault; the lexemes before it are kept.
-/

namespace Reckoner

namespace Expression

/-- The letter of the unknown. -/
def unknownLetter : Char := 'x'

/-- A lexical unit of an expression. -/
inductive Lexeme where
  | number (numeral : Numeral)
  | unknown
  | operator (symbol : Operator)
  | openBrace
  | closeBrace
  | function (called : Function)
  deriving DecidableEq

namespace Lexeme

/-- The written form of a lexeme. -/
def text : Lexeme → List Char
  | .number numeral => numeral.text
  | .unknown => [unknownLetter]
  | .operator symbol => symbol.text
  | .openBrace => ['(']
  | .closeBrace => [')']
  | .function called => called.name

/-- Whether a character separates lexemes without being part of one. -/
def isBlank (character : Char) : Bool :=
  character == ' ' || character == '\t' || character == '\n' || character == '\r'

/-- Whether a character can be part of a name. -/
def isNameLetter (character : Char) : Bool :=
  character.isAlpha && character != unknownLetter

/-- The lexeme that a character is by itself. -/
def ofChar? (character : Char) : Option Lexeme :=
  if character = '(' then some openBrace
  else if character = ')' then some closeBrace
  else if character = unknownLetter then some unknown
  else (Operator.all.find? fun symbol => symbol.text == [character]).map .operator

/-- The lexeme that a name stands for. -/
def ofName? (name : List Char) : Option Lexeme :=
  if name = Operator.modulo.text then some (.operator .modulo)
  else (Function.ofName? name).map .function

/-- The lexeme at the start of a text that starts with no blank, and what follows it. -/
def read (character : Char) (following : List Char) : Except Fault (Lexeme × List Char) :=
  match ofChar? character with
  | some lexeme => .ok (lexeme, following)
  | none =>
      match Numeral.read? (character :: following) with
      | some (numeral, rest) => .ok (number numeral, rest)
      | none =>
          if isNameLetter character then
            match ofName? (character :: following.takeWhile isNameLetter) with
            | some lexeme => .ok (lexeme, following.dropWhile isNameLetter)
            | none => .error .functionUsage
          else .error .invalidExpression

/-- A lexeme takes at least one character. -/
theorem length_le_of_read {character : Char} {following rest : List Char} {lexeme : Lexeme}
    (reads : read character following = .ok (lexeme, rest)) : rest.length ≤ following.length := by
  unfold read at reads
  split at reads
  · simp only [Except.ok.injEq, Prod.mk.injEq] at reads
    simp [reads.2]
  · split at reads
    · next numeralReads =>
      simp only [Except.ok.injEq, Prod.mk.injEq] at reads
      have := Numeral.length_lt_of_read? numeralReads
      simp only [List.length_cons] at this
      rw [← reads.2]
      omega
    · split at reads
      · split at reads
        · simp only [Except.ok.injEq, Prod.mk.injEq] at reads
          rw [← reads.2]
          exact (List.dropWhile_suffix _).length_le
        · simp at reads
      · simp at reads

/-- The lexemes of a text up to its end or its first fault. -/
structure Reading where
  lexemes : List Lexeme
  fault : Option Fault

/-- Reads the lexemes of a text one after another, skipping blanks before each. -/
def readAll (text : List Char) : Reading :=
  match text with
  | [] => ⟨[], none⟩
  | character :: following =>
      if isBlank character then readAll following
      else
        match _reads : read character following with
        | .error fault => ⟨[], some fault⟩
        | .ok (lexeme, rest) =>
            let reading := readAll rest
            ⟨lexeme :: reading.lexemes, reading.fault⟩
termination_by text.length
decreasing_by
  · simp
  · have := length_le_of_read _reads
    simp only [List.length_cons]
    omega

end Lexeme

end Expression

end Reckoner
