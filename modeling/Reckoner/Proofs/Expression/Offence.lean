import Reckoner.Proofs.Expression.Lexemes
import Reckoner.Proofs.Expression.Taking

/-!
# The first offence

The offences of a text, judged from left to right by what stands before each place and by the
characters behind it, and not by what waits there. A rejected text gets the fault of its first
offence, and a text without offence is accepted.

The lexemes before a place decide what the conversion knows there: whether an operand has to follow,
whether anything stands before it, and how many braces are open. Every lexeme that is no offence
keeps that up.
-/

namespace Reckoner

namespace Expression

/-- Whether an operand has to follow a lexeme. -/
def Lexeme.awaitsOperand : Lexeme → Bool
  | .openBrace | .operator _ | .function _ => true
  | .number _ | .unknown | .closeBrace => false

/-- Whether an operand has to follow a list of lexemes; at the start one has to. -/
def awaitsOperand (before : List Lexeme) : Bool := before.getLast?.all Lexeme.awaitsOperand

/-- How many more braces have been opened than closed. -/
def depth (before : List Lexeme) : Int := before.count .openBrace - before.count .closeBrace

/-- The offence of a lexeme between the lexemes before it and the text behind it. A plus or minus
where an operand has to follow is a sign. -/
def offence? (mode : Mode) (before : List Lexeme) (following : List Char) :
    Lexeme → Option Fault
  | .number _ | .openBrace => if awaitsOperand before then none else some .numberUsage
  | .unknown =>
      if mode = .expression then some .invalidExpression
      else if awaitsOperand before then none
      else some .invalidEquation
  | .operator symbol =>
      if awaitsOperand before ∧ symbol ≠ .add ∧ symbol ≠ .subtract then some .operatorUsage
      else none
  | .function _ =>
      if awaitsOperand before ∧ (following.dropWhile Lexeme.isBlank).head? = some '(' then none
      else some .functionUsage
  | .closeBrace =>
      if awaitsOperand before then
        if before = [] then some .bracesMismatch else some .invalidSyntax
      else if depth before = 0 then some .bracesMismatch
      else none

/-- The offence of a text that starts with no lexeme: an unknown character, or a name that is
neither that of an operator nor that of a function. -/
def unreadable? (character : Char) (following : List Char) : Option Fault :=
  if character ∈ Lexeme.symbols ∨ character.isDigit = true then none
  else if Lexeme.isNameLetter character then
    if Lexeme.names.contains (character :: following.takeWhile Lexeme.isNameLetter) then none
    else some .functionUsage
  else some .invalidExpression

/-- The offence of a text that ends behind the given lexemes. -/
def offenceAtEnd? (before : List Lexeme) : Option Fault :=
  if before = [] then some .invalidExpression
  else if awaitsOperand before then some .invalidSyntax
  else if depth before ≠ 0 then some .bracesMismatch
  else none

/-- The first offence of a text behind the given lexemes. -/
def firstOffence? (mode : Mode) (before : List Lexeme) (text : List Char) : Option Fault :=
  match text with
  | [] => offenceAtEnd? before
  | character :: following =>
      if Lexeme.isBlank character then firstOffence? mode before following
      else
        (unreadable? character following).or <|
          match _reads : Lexeme.read character following with
          | .error _ => none
          | .ok (lexeme, rest) =>
              (offence? mode before rest lexeme).or (firstOffence? mode (before ++ [lexeme]) rest)
termination_by text.length
decreasing_by
  · simp
  · have := Lexeme.length_le_of_read _reads
    simp only [List.length_cons]
    omega

variable {mode : Mode} {before : List Lexeme} {lexeme : Lexeme}

theorem awaitsOperand_append : awaitsOperand (before ++ [lexeme]) = lexeme.awaitsOperand := by
  simp [awaitsOperand]

theorem depth_append : depth (before ++ [lexeme]) = depth before + depth [lexeme] := by
  simp only [depth, List.count_append]
  omega

theorem depth_closeBrace : depth [.closeBrace] = -1 := rfl

/-- A text starts with an offence exactly if no lexeme can be read there. -/
theorem unreadable?_eq_some_iff {character : Char} {following : List Char} {fault : Fault} :
    unreadable? character following = some fault ↔
      Lexeme.read character following = .error fault := by
  rw [Lexeme.read_eq_error_iff, unreadable?]
  by_cases starts : character ∈ Lexeme.symbols ∨ character.isDigit = true
  · simp only [starts, if_true, reduceCtorEq, false_iff]
    rintro ⟨notSymbol, notDigit, -⟩
    rcases starts with isSymbol | isDigit
    · exact notSymbol isSymbol
    · rw [notDigit] at isDigit
      contradiction
  · rw [if_neg starts]
    rw [not_or, Bool.not_eq_true] at starts
    simp only [starts, not_false_eq_true, true_and]
    by_cases isLetter : Lexeme.isNameLetter character = true
    · by_cases isName : (character :: following.takeWhile Lexeme.isNameLetter) ∈ Lexeme.names
      · simp [isLetter, isName]
      · simp [isLetter, isName, eq_comm]
    · simp [isLetter, eq_comm]

theorem unreadable?_eq_none_of_read {character : Char} {following rest : List Char}
    (reads : Lexeme.read character following = .ok (lexeme, rest)) :
    unreadable? character following = none := by
  refine Option.eq_none_iff_forall_ne_some.mpr ?_
  intro fault isFault
  rw [unreadable?_eq_some_iff, reads] at isFault
  contradiction

namespace Conversion

/-- What a conversion knows behind the given lexemes. -/
structure Follows (before : List Lexeme) (state : Conversion) : Prop where
  expects : state.expectsOperand = awaitsOperand before
  isAtStart : state.isAtStart = decide (before = [])
  openBraces : (state.pending.count .openBrace : Int) = depth before

/-- Going on with a reading, and with the end of the text behind it. -/
def convert (mode : Mode) (state : Conversion) (reading : Lexeme.Reading) :
    Except Fault Expression :=
  (state.run mode reading.lexemes).bind fun final =>
    match reading.fault with
    | some fault => .error fault
    | none => final.finish

variable {state next : Conversion} {fault : Fault}

theorem convert_cons (lexemes : List Lexeme) (fault : Option Fault) :
    state.convert mode ⟨lexeme :: lexemes, fault⟩ =
      (state.step mode lexeme lexemes.head?).bind fun next =>
        next.convert mode ⟨lexemes, fault⟩ := by
  simp only [convert, run]
  cases state.step mode lexeme lexemes.head? <;> rfl

theorem ofReading_eq_convert (reading : Lexeme.Reading) :
    ofReading mode reading = start.convert mode reading := by
  simp only [ofReading, convert]
  cases start.run mode reading.lexemes <;> rfl

theorem start_follows : start.Follows [] := ⟨rfl, rfl, rfl⟩

theorem closeBrace_eq_error_iff (complete : state.expectsOperand = false) :
    state.closeBrace = .error fault ↔
      state.pending.count .openBrace = 0 ∧ fault = .bracesMismatch := by
  simp only [closeBrace, complete, Bool.false_eq_true, if_false]
  rw [← Pending.count_dropWhile (· != .openBrace) (by decide)]
  split
  · next none => simp [none, eq_comm]
  · next entry called waiting left =>
    obtain rfl := Pending.eq_openBrace_of_dropWhile_eq_cons left
    simp [left]
  · next entry waiting _ left =>
    obtain rfl := Pending.eq_openBrace_of_dropWhile_eq_cons left
    simp [left]

/-- An offence is what the conversion stops at. -/
theorem Follows.step_eq_error_iff (follows : state.Follows before) (following : List Char) :
    state.step mode lexeme (Lexeme.readAll following).lexemes.head? = .error fault ↔
      offence? mode before following lexeme = some fault := by
  cases lexeme with
  | number numeral =>
      simp only [step, offence?, follows.expects]
      split <;> simp
  | unknown =>
      simp only [step, offence?, follows.expects]
      split
      · simp
      split <;> simp
  | operator symbol =>
      simp only [step, offence?, follows.expects]
      cases awaitsOperand before <;> cases symbol <;> simp [Operator.sign?]
  | function called =>
      simp only [step, offence?, follows.expects, Lexeme.head?_lexemes_eq_openBrace_iff]
      split <;> simp
  | openBrace =>
      simp only [step, offence?, follows.expects]
      split <;> simp
  | closeBrace =>
      cases awaits : awaitsOperand before with
      | true =>
          have expects : state.expectsOperand = true := follows.expects.trans awaits
          simp only [step, closeBrace, offence?, expects, awaits, if_true, follows.isAtStart]
          by_cases isStart : before = [] <;> simp [isStart]
      | false =>
          have complete : state.expectsOperand = false := follows.expects.trans awaits
          have openBraces := follows.openBraces
          simp only [step, closeBrace_eq_error_iff complete, offence?, awaits, Bool.false_eq_true,
            if_false]
          by_cases isClosed : depth before = 0
          · have noneOpen : state.pending.count .openBrace = 0 := by omega
            simp [isClosed, noneOpen, eq_comm]
          · have someOpen : state.pending.count .openBrace ≠ 0 := by omega
            simp [isClosed, someOpen]

theorem Follows.offence?_eq_none_of_step (follows : state.Follows before) {following : List Char}
    (steps : state.step mode lexeme (Lexeme.readAll following).lexemes.head? = .ok next) :
    offence? mode before following lexeme = none := by
  refine Option.eq_none_iff_forall_ne_some.mpr ?_
  intro fault isFault
  rw [← follows.step_eq_error_iff, steps] at isFault
  contradiction

theorem Follows.append (expects : next.expectsOperand = lexeme.awaitsOperand)
    (notAtStart : next.isAtStart = false)
    (openBraces : (next.pending.count .openBrace : Int) = depth before + depth [lexeme]) :
    next.Follows (before ++ [lexeme]) := by
  refine ⟨?_, ?_, ?_⟩
  · rw [expects, awaitsOperand_append]
  · simp [notAtStart]
  · rw [openBraces, depth_append]

/-- What the conversion knows is kept up by every lexeme that it takes. What an operator completes
holds no brace; only braces themselves change their number. -/
theorem Follows.step (follows : state.Follows before) {next? : Option Lexeme}
    (takes : Takes mode state lexeme next? next) : next.Follows (before ++ [lexeme]) := by
  have openBraces := follows.openBraces
  cases takes with
  | number numeral _ => exact .append rfl rfl (by simpa [operand, depth] using openBraces)
  | unknown _ _ => exact .append rfl rfl (by simpa [operand, depth] using openBraces)
  | sign _ expects => exact .append expects rfl (by simpa [wait, depth] using openBraces)
  | operator symbol _ =>
      have counts := Pending.count_dropWhile (Pending.yieldsTo symbol) rfl state.pending
      exact .append rfl rfl (by simpa [operator, counts, depth] using openBraces)
  | function called expects => exact .append expects rfl (by simpa [wait, depth] using openBraces)
  | openBrace expects => exact .append expects rfl (by simp [wait, openBraces, depth])
  | closeBrace complete opened _ =>
      have counts := Pending.count_of_dropWhile_eq_cons opened
      refine .append complete rfl ?_
      simp only [depth_closeBrace]
      omega
  | closeCall complete opened =>
      have counts := Pending.count_of_dropWhile_eq_cons opened
      rw [List.count_cons_of_ne (by simp)] at counts
      refine .append complete rfl ?_
      simp only [depth_closeBrace]
      omega

theorem Follows.finish_eq_error_iff (follows : state.Follows before) :
    state.finish = .error fault ↔ offenceAtEnd? before = some fault := by
  have openBraces := follows.openBraces
  simp only [finish, offenceAtEnd?, follows.isAtStart, follows.expects, decide_eq_true_eq]
  split
  · simp
  split
  · simp
  by_cases isOpen : .openBrace ∈ state.pending
  · have deep : depth before ≠ 0 := by
      have := List.count_pos_iff.mpr isOpen
      omega
    simp [isOpen, deep]
  · have flat : depth before = 0 := by
      have := List.count_eq_zero.mpr isOpen
      omega
    simp [isOpen, flat]

/-- Behind lexemes without offence, the conversion ends with the first offence of what follows. The
scan takes the lexemes that the reader takes, so the induction is on the scan. -/
theorem Follows.convert_eq_error_iff {text : List Char} (follows : state.Follows before) :
    state.convert mode (Lexeme.readAll text) = .error fault ↔
      firstOffence? mode before text = some fault := by
  fun_induction firstOffence? mode before text generalizing state with
  | case1 before =>
      rw [Lexeme.readAll_nil]
      exact follows.finish_eq_error_iff
  | case2 before character following blank ih =>
      rw [Lexeme.readAll_of_isBlank blank]
      exact ih follows
  | case3 before character following notBlank ih =>
      rw [Bool.not_eq_true] at notBlank
      split
      · next lexicalFault reads =>
        rw [Lexeme.readAll_of_error notBlank reads, unreadable?_eq_some_iff.mpr reads]
        simp [convert, run, Except.bind]
      · next lexeme rest reads =>
        rw [Lexeme.readAll_of_read notBlank reads, convert_cons, unreadable?_eq_none_of_read reads,
          Option.none_or]
        cases steps : state.step mode lexeme (Lexeme.readAll rest).lexemes.head? with
        | error offence =>
            rw [(follows.step_eq_error_iff rest).mp steps]
            simp [Except.bind]
        | ok next =>
            rw [follows.offence?_eq_none_of_step steps, Option.none_or]
            exact ih lexeme rest reads (follows.step (.of_step steps))

end Conversion

/-- A text is rejected with the fault of its first offence, and only if it has one. -/
theorem parse_reports_first_offence (mode : Mode) (text : List Char) (fault : Fault) :
    parse mode text = .error fault ↔ firstOffence? mode [] text = some fault := by
  rw [parse, Conversion.ofReading_eq_convert]
  exact Conversion.start_follows.convert_eq_error_iff

/-- A misplaced brace is an earlier offence than an unknown character behind it. -/
example : firstOffence? .expression [] ['2', ' ', '(', '$'] = some .numberUsage := by
  decide +kernel

end Expression

end Reckoner
