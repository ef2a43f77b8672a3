import Reckoner.Proofs.Expression.Acceptance
import Reckoner.Proofs.Expression.Rendering

/-!
# Numerals in place of the unknown

A numeral in braces may be written wherever the unknown stands: the text that results is no equation
any more, and its value is the value of the equation at the number. The letter of the unknown is
part of no number and of no name, and neither is an open brace, so every other lexeme is read as
before. In the tree, the number takes the place of the unknown and the braces leave no trace.
-/

namespace Reckoner

namespace Expression

/-- A text with a numeral in braces in place of every unknown. -/
def substitute (numeral : Numeral) (text : List Char) : List Char :=
  text.flatMap fun character =>
    if character = unknownLetter then '(' :: numeral.text ++ [')'] else [character]

/-- The lexemes that take the place of a lexeme. -/
def Lexeme.replacement (numeral : Numeral) : Lexeme → List Lexeme
  | .unknown => [.openBrace, .number numeral, .closeBrace]
  | lexeme => [lexeme]

/-- A tree with a number in place of every unknown. -/
def Tree.bind (value : Float) : Tree → Tree
  | .number literal => .number literal
  | .unknown => .number value
  | .sign symbol operand => .sign symbol (operand.bind value)
  | .function called operand => .function called (operand.bind value)
  | .operator symbol left right => .operator symbol (left.bind value) (right.bind value)

/-- An instruction that puts a number on the stack where it would put the unknown. -/
def Instruction.bind (value : Float) : Instruction → Instruction
  | .unknown => .number value
  | instruction => instruction

/-! ## Reading the text -/

variable (numeral : Numeral)

theorem substitute_nil : substitute numeral [] = [] := rfl

theorem substitute_unknown (rest : List Char) :
    substitute numeral (unknownLetter :: rest) =
      '(' :: (numeral.text ++ ')' :: substitute numeral rest) := by
  simp [substitute]

theorem substitute_cons {character : Char} (notUnknown : character ≠ unknownLetter)
    (rest : List Char) :
    substitute numeral (character :: rest) = character :: substitute numeral rest := by
  simp [substitute, notUnknown]

/-- What neither the unknown nor an open brace is part of is not changed. -/
theorem span_substitute (isPart : Char → Bool) (text : List Char)
    (notUnknown : isPart unknownLetter = false) (notBrace : isPart '(' = false) :
    (substitute numeral text).takeWhile isPart = text.takeWhile isPart ∧
      (substitute numeral text).dropWhile isPart = substitute numeral (text.dropWhile isPart) := by
  induction text with
  | nil => exact ⟨rfl, rfl⟩
  | cons character rest ih =>
      by_cases isUnknown : character = unknownLetter
      · subst isUnknown
        simp [substitute_unknown, notUnknown, notBrace]
      · rw [substitute_cons numeral isUnknown]
        cases part : isPart character with
        | true => simpa [part] using ih
        | false => simp [part, substitute_cons numeral isUnknown]

theorem takeFrom_substitute (text : List Char) :
    DigitRun.takeFrom (substitute numeral text) = DigitRun.takeFrom text := by
  simp only [DigitRun.takeFrom,
    (span_substitute numeral Char.isDigit text (by decide) (by decide)).1]

theorem dropFrom_substitute (text : List Char) :
    DigitRun.dropFrom (substitute numeral text) = substitute numeral (DigitRun.dropFrom text) :=
  (span_substitute numeral Char.isDigit text (by decide) (by decide)).2

theorem readSign_substitute (text : List Char) :
    Exponent.readSign (substitute numeral text) =
      ((Exponent.readSign text).1, substitute numeral (Exponent.readSign text).2) := by
  rcases text with _ | ⟨character, rest⟩
  · rfl
  by_cases isUnknown : character = unknownLetter
  · subst isUnknown
    rw [substitute_unknown]
    exact congrArg (Prod.mk none) (substitute_unknown numeral rest).symm
  rw [substitute_cons numeral isUnknown]
  by_cases isPlus : character = '+'
  · subst isPlus
    rfl
  by_cases isMinus : character = '-'
  · subst isMinus
    rfl
  · simp [Exponent.readSign, isPlus, isMinus, substitute_cons numeral isUnknown]

theorem readAfterLetter?_substitute (isCapital : Bool) (text : List Char) :
    Exponent.readAfterLetter? isCapital (substitute numeral text) =
      (Exponent.readAfterLetter? isCapital text).map (Prod.map id (substitute numeral)) := by
  simp only [Exponent.readAfterLetter?, readSign_substitute, takeFrom_substitute,
    dropFrom_substitute]
  split <;> rfl

theorem exponentRead?_substitute (text : List Char) :
    Exponent.read? (substitute numeral text) =
      (Exponent.read? text).map (Prod.map id (substitute numeral)) := by
  rcases text with _ | ⟨character, rest⟩
  · rfl
  by_cases isUnknown : character = unknownLetter
  · subst isUnknown
    rw [substitute_unknown]
    rfl
  rw [substitute_cons numeral isUnknown]
  by_cases isSmall : character = 'e'
  · subst isSmall
    exact readAfterLetter?_substitute numeral false rest
  by_cases isCapital : character = 'E'
  · subst isCapital
    exact readAfterLetter?_substitute numeral true rest
  · simp [Exponent.read?, isSmall, isCapital]

theorem readFraction_substitute (text : List Char) :
    Numeral.readFraction (substitute numeral text) =
      Prod.map id (substitute numeral) (Numeral.readFraction text) := by
  rcases text with _ | ⟨character, rest⟩
  · rfl
  by_cases isUnknown : character = unknownLetter
  · subst isUnknown
    rw [substitute_unknown]
    exact congrArg (Prod.mk none) (substitute_unknown numeral rest).symm
  rw [substitute_cons numeral isUnknown]
  by_cases isPoint : character = '.'
  · subst isPoint
    simp [Numeral.readFraction, takeFrom_substitute, dropFrom_substitute]
  · simp [Numeral.readFraction, isPoint, substitute_cons numeral isUnknown]

theorem readExponent_substitute (text : List Char) :
    Numeral.readExponent (substitute numeral text) =
      Prod.map id (substitute numeral) (Numeral.readExponent text) := by
  simp only [Numeral.readExponent, exponentRead?_substitute]
  cases Exponent.read? text <;> rfl

theorem numeralRead?_substitute (text : List Char) :
    Numeral.read? (substitute numeral text) =
      (Numeral.read? text).map (Prod.map id (substitute numeral)) := by
  simp only [Numeral.read?, takeFrom_substitute, dropFrom_substitute, readFraction_substitute,
    Prod.map_fst, Prod.map_snd, id, readExponent_substitute]
  split <;> rfl

namespace Lexeme

/-- Every lexeme but the unknown is read as before: numbers and names end where they ended before,
whatever stands for the unknown. -/
theorem read_substitute {character : Char} (notUnknown : character ≠ unknownLetter)
    (following : List Char) :
    read character (substitute numeral following) =
      (read character following).map (Prod.map id (substitute numeral)) := by
  have numeralReads := numeralRead?_substitute numeral (character :: following)
  have name := span_substitute numeral isNameLetter following (by decide) (by decide)
  rw [substitute_cons numeral notUnknown] at numeralReads
  simp only [read, numeralReads, name]
  cases ofChar? character with
  | some lexeme => rfl
  | none =>
      cases Numeral.read? (character :: following) with
      | some result => rfl
      | none =>
          simp only [Option.map_none]
          split
          · cases ofName? (character :: following.takeWhile isNameLetter) <;> rfl
          · rfl

theorem replacement_of_ne {lexeme : Lexeme} (notUnknown : lexeme ≠ .unknown) :
    lexeme.replacement numeral = [lexeme] := by
  cases lexeme with
  | unknown => exact absurd rfl notUnknown
  | _ => rfl

theorem readAll_braces_append (rest : List Char) :
    readAll ('(' :: (numeral.text ++ ')' :: rest)) =
      ⟨.openBrace :: .number numeral :: .closeBrace :: (readAll rest).lexemes,
        (readAll rest).fault⟩ := by
  have ends : numeral.EndsBefore (')' :: rest) :=
    Numeral.endsBefore_cons rest (by decide) (by decide) (by decide)
  have closes : readAll (')' :: rest) =
      ⟨.closeBrace :: (readAll rest).lexemes, (readAll rest).fault⟩ :=
    readAll_of_read (by decide) rfl
  have written : readAll (numeral.text ++ ')' :: rest) =
      ⟨.number numeral :: (readAll (')' :: rest)).lexemes, (readAll (')' :: rest)).fault⟩ :=
    readAll_text_append (.number numeral) ends
  have opens : readAll ('(' :: (numeral.text ++ ')' :: rest)) =
      ⟨.openBrace :: (readAll (numeral.text ++ ')' :: rest)).lexemes,
        (readAll (numeral.text ++ ')' :: rest)).fault⟩ :=
    readAll_of_read (by decide) rfl
  rw [opens, written, closes]

/-- The lexemes of the new text are those of the old one, each with what takes its place. The braces
and the numeral are three lexemes, since no numeral goes on with a brace. -/
theorem readAll_substitute (text : List Char) :
    readAll (substitute numeral text) =
      ⟨(readAll text).lexemes.flatMap (replacement numeral), (readAll text).fault⟩ := by
  fun_induction readAll text with
  | case1 => simp [substitute_nil, readAll_nil]
  | case2 character following blank ih =>
      have notUnknown : character ≠ unknownLetter := by
        rintro rfl
        contradiction
      rw [substitute_cons numeral notUnknown, readAll_of_isBlank blank, ih]
  | case3 character following notBlank fault reads =>
      have notUnknown : character ≠ unknownLetter := by
        rintro rfl
        contradiction
      rw [Bool.not_eq_true] at notBlank
      rw [substitute_cons numeral notUnknown, readAll_of_error notBlank]
      · rfl
      · rw [read_substitute numeral notUnknown, reads]
        rfl
  | case4 character following notBlank lexeme rest reads reading ih =>
      rw [Bool.not_eq_true] at notBlank
      by_cases isUnknown : character = unknownLetter
      · subst isUnknown
        cases reads
        rw [substitute_unknown, readAll_braces_append, ih]
        rfl
      · have readsAgain : read character (substitute numeral following) =
            .ok (lexeme, substitute numeral rest) := by
          rw [read_substitute numeral isUnknown, reads]
          rfl
        have isLetter : ofChar? unknownLetter = some .unknown := rfl
        have stays := replacement_of_ne numeral
          (mt (eq_symbol_iff_of_read isLetter reads).mp isUnknown)
        rw [substitute_cons numeral isUnknown, readAll_of_read notBlank readsAgain, ih]
        simp [stays, reading]

end Lexeme

/-! ## The tree and its program -/

variable {mode : Mode}

namespace Reads

/-- Braces around a number are an operand just as the unknown is one. -/
theorem substitute {priority : Priority} {lexemes : List Lexeme} {tree : Tree}
    (reads : Reads mode priority lexemes tree) :
    Reads .expression priority (lexemes.flatMap (Lexeme.replacement numeral))
      (tree.bind numeral.value) := by
  induction reads with
  | number written => exact .number written
  | unknown _ => exact .braces (.weaken (Priority.additive_le _) (.number numeral))
  | braces _ ih => simpa [Lexeme.replacement] using Reads.braces ih
  | call called _ ih => simpa [Lexeme.replacement, Tree.bind] using Reads.call called ih
  | sign isSign _ ih => exact .sign isSign ih
  | operation symbol _ _ ihLeft ihRight =>
      simpa [Lexeme.replacement, Tree.bind] using Reads.operation symbol ihLeft ihRight
  | weaken isWeaker _ ih => exact .weaken isWeaker ih

end Reads

theorem Tree.program_bind (value : Float) (tree : Tree) :
    (tree.bind value).program = tree.program.map (Instruction.bind value) := by
  induction tree with
  | number literal => rfl
  | unknown => rfl
  | sign symbol operand ih => simp [Tree.bind, Tree.program, ih, Instruction.bind]
  | function called operand ih => simp [Tree.bind, Tree.program, ih, Instruction.bind]
  | operator symbol left right ihLeft ihRight =>
      simp [Tree.bind, Tree.program, ihLeft, ihRight, Instruction.bind]

namespace Instruction

theorem bind_ne_unknown (value : Float) (instruction : Instruction) :
    instruction.bind value ≠ .unknown := by
  cases instruction <;> simp [bind]

theorem execute_bind (value : Float) (instruction : Instruction) (stack : List Float) :
    (instruction.bind value).execute none stack = instruction.execute (some value) stack := by
  cases instruction <;> rcases stack with _ | ⟨right, _ | ⟨left, stack⟩⟩ <;> rfl

end Instruction

/-- A program runs with a number in place of the unknown as it runs with the unknown bound. -/
theorem runOn_map_bind (value : Float) (program : List Instruction) (stack : List Float) :
    runOn none (program.map (Instruction.bind value)) stack = runOn (some value) program stack := by
  induction program generalizing stack with
  | nil => rcases stack with _ | ⟨result, _ | ⟨second, stack⟩⟩ <;> rfl
  | cons instruction program ih =>
      simp only [List.map_cons, runOn, Instruction.execute_bind, ih]

/-- An equation with a numeral in braces in place of every unknown is an arithmetic text. Its
program is that of the equation with the number in place of the unknown, and it has the value, or
the fault, that the equation has at that number. -/
theorem parse_substitute {text : List Char} {equation : Expression}
    (accepted : parse .equation text = .ok equation) :
    ∃ expression, parse .expression (substitute numeral text) = .ok expression ∧
      expression.program = equation.program.map (Instruction.bind numeral.value) ∧
      expression.evaluate = equation.evaluateAt numeral.value := by
  have readsText := Lexeme.readAll_substitute numeral text
  rcases exists_tree_of_parse accepted with ⟨tree, reads, program⟩
  have noFault : (Lexeme.readAll (substitute numeral text)).fault = none := by
    rw [readsText]
    exact (parse_eq_ok_iff.mp accepted).1
  have readsBound : Reads .expression .additive (Lexeme.readAll (substitute numeral text)).lexemes
      (tree.bind numeral.value) := by
    rw [readsText]
    exact reads.substitute numeral
  rcases exists_parse_of_reads noFault readsBound with ⟨expression, acceptedBound, programBound⟩
  have programEq : expression.program = equation.program.map (Instruction.bind numeral.value) := by
    rw [programBound, Tree.program_bind, program]
  refine ⟨expression, acceptedBound, programEq, ?_⟩
  have noUnknown : expression.hasUnknown = false := by
    rw [Bool.eq_false_iff, ne_eq, hasUnknown_iff_of_parse acceptedBound, programEq, List.mem_map]
    rintro ⟨instruction, -, isUnknown⟩
    exact Instruction.bind_ne_unknown _ _ isUnknown
  rw [evaluate, noUnknown, programEq]
  exact runOn_map_bind numeral.value equation.program []

/-- The value of `7modx/x` at four, where four is written `0.4e1`. -/
theorem parse_substitute_of_remainder :
    parse .equation ['7', 'm', 'o', 'd', 'x', '/', 'x'] =
        .ok ⟨[.number 7.0, .unknown, .operator .modulo, .unknown, .operator .divide], true⟩ ∧
      ∃ expression,
        parse .expression ['7', 'm', 'o', 'd', '(', '0', '.', '4', 'e', '1', ')', '/', '(', '0',
          '.', '4', 'e', '1', ')'] = .ok expression ∧
        expression.program =
          [.number 7.0, .number 4.0, .operator .modulo, .number 4.0, .operator .divide] ∧
        expression.evaluate = .ok 0.75 := by
  have accepted : parse .equation ['7', 'm', 'o', 'd', 'x', '/', 'x'] =
      .ok ⟨[.number 7.0, .unknown, .operator .modulo, .unknown, .operator .divide], true⟩ := by
    decide +kernel
  let four : Numeral := ⟨⟨['0'], rfl⟩, some ⟨['4'], rfl⟩,
    some ⟨false, none, ⟨['1'], rfl⟩, by decide⟩, by decide⟩
  have isFour : four.value = 4.0 := by decide +kernel
  rcases parse_substitute four accepted with ⟨expression, acceptedBound, program, evaluates⟩
  rw [isFour] at program evaluates
  refine ⟨accepted, expression, acceptedBound, program, ?_⟩
  rw [evaluates]
  decide +kernel

end Expression

end Reckoner
