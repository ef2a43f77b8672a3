import Reckoner.Expression.Lexeme

/-!
# How lexemes are read

One equation for each way in which the reading of a text goes on, and which characters a lexeme can
start with. What follows about lexemes uses these facts and not the reader itself.
-/

namespace Reckoner

namespace Expression

namespace Lexeme

variable {character : Char} {following : List Char}

theorem readAll_nil : readAll [] = ⟨[], none⟩ := by
  rw [readAll]

theorem readAll_of_isBlank (blank : isBlank character = true) :
    readAll (character :: following) = readAll following := by
  rw [readAll]
  simp [blank]

theorem readAll_of_error {fault : Fault} (notBlank : isBlank character = false)
    (fails : read character following = .error fault) :
    readAll (character :: following) = ⟨[], some fault⟩ := by
  rw [readAll]
  simp only [notBlank, Bool.false_eq_true, if_false]
  split
  · next same =>
    rw [fails] at same
    cases same
    rfl
  · next same =>
    rw [fails] at same
    contradiction

theorem readAll_of_read {lexeme : Lexeme} {rest : List Char} (notBlank : isBlank character = false)
    (reads : read character following = .ok (lexeme, rest)) :
    readAll (character :: following) =
      ⟨lexeme :: (readAll rest).lexemes, (readAll rest).fault⟩ := by
  rw [readAll]
  simp only [notBlank, Bool.false_eq_true, if_false]
  split
  · next same =>
    rw [reads] at same
    contradiction
  · next same =>
    rw [reads] at same
    cases same
    rfl

/-- The characters that are lexemes by themselves. -/
def symbols : List Char := ['+', '-', '*', '/', '^', '(', ')', unknownLetter]

theorem ofChar?_eq_none_iff : ofChar? character = none ↔ character ∉ symbols := by
  constructor
  · intro isNone member
    simp only [symbols, List.mem_cons, List.not_mem_nil, or_false] at member
    rcases member with rfl | rfl | rfl | rfl | rfl | rfl | rfl | rfl <;> contradiction
  · intro notSymbol
    simp only [symbols, List.mem_cons, List.not_mem_nil, or_false, not_or] at notSymbol
    have noOperator : (Operator.all.find? fun symbol => symbol.text == [character]) = none := by
      rw [List.find?_eq_none]
      intro symbol _ isText
      rw [beq_iff_eq] at isText
      cases symbol <;> cases isText <;> simp at notSymbol
    simp [ofChar?, notSymbol, noOperator]

theorem text_of_ofChar? {lexeme : Lexeme} (isSymbol : ofChar? character = some lexeme) :
    lexeme.text = [character] := by
  simp only [ofChar?] at isSymbol
  split at isSymbol
  · next isOpen =>
    cases isSymbol
    rw [isOpen]
    rfl
  split at isSymbol
  · next isClose =>
    cases isSymbol
    rw [isClose]
    rfl
  split at isSymbol
  · next isUnknown =>
    cases isSymbol
    rw [isUnknown]
    rfl
  · rcases Option.map_eq_some_iff.mp isSymbol with ⟨symbol, found, rfl⟩
    simpa [text] using List.find?_some found

/-- The names that lexemes have. -/
def names : List (List Char) := Operator.modulo.text :: Function.all.map Function.name

theorem ofName?_eq_none_iff {name : List Char} : ofName? name = none ↔ name ∉ names := by
  by_cases isModulo : name = Operator.modulo.text
  · simp [ofName?, names, isModulo]
  · simp [ofName?, names, isModulo, Function.ofName?]

theorem text_of_ofName? {name : List Char} {lexeme : Lexeme}
    (isName : ofName? name = some lexeme) : lexeme.text = name := by
  simp only [ofName?] at isName
  split at isName
  · next isModulo =>
    cases isName
    exact isModulo.symm
  · rcases Option.map_eq_some_iff.mp isName with ⟨called, found, rfl⟩
    simpa [text] using List.find?_some found

theorem numeralRead?_eq_none_iff (following : List Char) :
    Numeral.read? (character :: following) = none ↔ character.isDigit = false := by
  cases isDigit : character.isDigit <;>
    simp [Numeral.read?, DigitRun.takeFrom, isDigit]

theorem not_special_of_isDigit (isDigit : character.isDigit = true) :
    character ∉ symbols ∧ isBlank character = false := by
  constructor
  · intro member
    simp only [symbols, List.mem_cons, List.not_mem_nil, or_false] at member
    rcases member with rfl | rfl | rfl | rfl | rfl | rfl | rfl | rfl <;> contradiction
  · rw [Bool.eq_false_iff]
    intro blank
    simp only [isBlank, Bool.or_eq_true, beq_iff_eq] at blank
    rcases blank with ((rfl | rfl) | rfl) | rfl <;> contradiction

theorem read_of_numeralRead? {numeral : Numeral} {rest : List Char}
    (isDigit : character.isDigit = true)
    (reads : Numeral.read? (character :: following) = some (numeral, rest)) :
    read character following = .ok (.number numeral, rest) := by
  have noSymbol := ofChar?_eq_none_iff.mpr (not_special_of_isDigit isDigit).1
  simp only [read, noSymbol, reads]

/-- Reading fails on an unknown name and on an unknown character, and on nothing else. -/
theorem read_eq_error_iff {fault : Fault} :
    read character following = .error fault ↔
      character ∉ symbols ∧ character.isDigit = false ∧
        if isNameLetter character then
          (character :: following.takeWhile isNameLetter) ∉ names ∧ fault = .functionUsage
        else fault = .invalidExpression := by
  rw [← ofChar?_eq_none_iff, ← numeralRead?_eq_none_iff following, ← ofName?_eq_none_iff]
  unfold read
  split
  · next isSymbol => simp [isSymbol]
  · next noSymbol =>
    split
    · next isNumeral => simp [isNumeral]
    · next noNumeral =>
      simp only [noSymbol, noNumeral, true_and]
      split
      · split
        · next isName => simp [isName]
        · next noName => simp [noName, eq_comm]
      · simp [eq_comm]

/-- Nothing is lost between a lexeme and what follows it. -/
theorem text_append_of_read {lexeme : Lexeme} {rest : List Char}
    (reads : read character following = .ok (lexeme, rest)) :
    lexeme.text ++ rest = character :: following := by
  simp only [read] at reads
  split at reads
  · next isSymbol =>
    cases reads
    rw [text_of_ofChar? isSymbol]
    rfl
  split at reads
  · next isNumeral =>
    cases reads
    exact Numeral.text_append_of_read? isNumeral
  split at reads
  · split at reads
    · next isName =>
      cases reads
      rw [text_of_ofName? isName, List.cons_append, List.takeWhile_append_dropWhile]
    · contradiction
  · contradiction

/-- A symbol is read from its own character and from no other one. -/
theorem eq_symbol_iff_of_read {symbol lexeme : Lexeme} {symbolChar : Char} {rest : List Char}
    (isSymbol : ofChar? symbolChar = some symbol)
    (reads : read character following = .ok (lexeme, rest)) :
    lexeme = symbol ↔ character = symbolChar := by
  constructor
  · rintro rfl
    have text := text_append_of_read reads
    rw [text_of_ofChar? isSymbol] at text
    exact (List.cons.inj text).1.symm
  · rintro rfl
    simp only [read, isSymbol] at reads
    cases reads
    rfl

/-- The next lexeme is an open brace exactly if the next character that is no blank is one. -/
theorem head?_lexemes_eq_openBrace_iff (text : List Char) :
    (readAll text).lexemes.head? = some .openBrace ↔
      (text.dropWhile isBlank).head? = some '(' := by
  induction text with
  | nil => simp [readAll_nil]
  | cons character following ih =>
      cases blank : isBlank character with
      | true => simpa [readAll_of_isBlank blank, blank] using ih
      | false =>
          cases reads : read character following with
          | error fault =>
              have notOpen : character ≠ '(' := by
                rintro rfl
                contradiction
              simp [readAll_of_error blank reads, blank, notOpen]
          | ok result =>
              have isBrace : ofChar? '(' = some .openBrace := rfl
              have isOpen := eq_symbol_iff_of_read isBrace reads
              simp [readAll_of_read blank reads, blank, isOpen]

end Lexeme

end Expression

end Reckoner
