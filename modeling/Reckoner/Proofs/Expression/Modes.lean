import Reckoner.Proofs.Expression.Acceptance

/-!
# The two modes

The same text as an arithmetic text and as an equation. The two conversions go in step until one of
them stops: they differ only where the unknown is read, and there the arithmetic one stops. So the
arithmetic text has the fault of the unknown if the unknown is among the lexemes that the equation
is judged by, and the outcome of the equation otherwise.
-/

namespace Reckoner

namespace Expression

namespace Conversion

/-- The lexemes that a conversion is judged by: all of them, or those up to the one that it stops
at, which is the last. -/
def judged (mode : Mode) : Conversion → List Lexeme → List Lexeme
  | _, [] => []
  | state, lexeme :: lexemes =>
      lexeme ::
        match state.step mode lexeme lexemes.head? with
        | .error _ => []
        | .ok next => judged mode next lexemes

variable {mode : Mode} {state final : Conversion} {lexeme : Lexeme} {lexemes : List Lexeme}

theorem step_expression_of_ne (notUnknown : lexeme ≠ .unknown) (next? : Option Lexeme) :
    state.step .expression lexeme next? = state.step .equation lexeme next? := by
  cases lexeme with
  | unknown => contradiction
  | _ => rfl

/-- An arithmetic text is converted as an equation is, up to the first unknown. -/
theorem run_expression (state : Conversion) (lexemes : List Lexeme) :
    state.run .expression lexemes =
      if .unknown ∈ state.judged .equation lexemes then .error .invalidExpression
      else state.run .equation lexemes := by
  induction lexemes generalizing state with
  | nil => rfl
  | cons lexeme lexemes ih =>
      by_cases isUnknown : lexeme = .unknown
      · subst isUnknown
        simp [run, judged, step]
      · have notHead : .unknown ≠ lexeme := Ne.symm isUnknown
        simp only [run, judged, step_expression_of_ne isUnknown, List.mem_cons, notHead, false_or]
        cases state.step .equation lexeme lexemes.head? with
        | error fault => simp
        | ok next => exact ih next

/-- A conversion that takes all lexemes is judged by all of them. -/
theorem judged_of_run (runs : state.run mode lexemes = .ok final) :
    state.judged mode lexemes = lexemes := by
  induction lexemes generalizing state with
  | nil => rfl
  | cons lexeme lexemes ih =>
      simp only [run] at runs
      split at runs
      · contradiction
      · next next steps => simp only [judged, steps, ih runs]

theorem hasUnknown_of_takes {next : Conversion} {next? : Option Lexeme}
    (takes : Takes mode state lexeme next? next) :
    next.hasUnknown = true ↔ state.hasUnknown = true ∨ lexeme = .unknown := by
  cases takes <;> simp [operand, wait, operator]

/-- The mark for the unknown is set exactly if the unknown has been taken. -/
theorem hasUnknown_of_visits {next? : Option Lexeme} (visits : Visits mode lexemes next? state) :
    state.hasUnknown = true ↔ .unknown ∈ lexemes := by
  induction visits with
  | start => simp [start]
  | @step before lexeme _ _ _ _ steps ih =>
      rw [hasUnknown_of_takes (.of_step steps), ih, List.mem_append, List.mem_singleton,
        eq_comm (a := lexeme)]

theorem hasUnknown_of_finish {expression : Expression} (finishes : final.finish = .ok expression) :
    expression.hasUnknown = final.hasUnknown := by
  simp only [finish] at finishes
  split at finishes
  · contradiction
  split at finishes
  · contradiction
  split at finishes
  · contradiction
  cases finishes
  rfl

end Conversion

/-- The lexemes by which a text is judged as an equation: all of them, or those up to and including
the first that is misplaced. -/
def judgedLexemes (text : List Char) : List Lexeme :=
  Conversion.start.judged .equation (Lexeme.readAll text).lexemes

theorem parse_expression_eq (text : List Char) :
    parse .expression text =
      if .unknown ∈ judgedLexemes text then .error .invalidExpression
      else parse .equation text := by
  by_cases meetsUnknown :
      .unknown ∈ Conversion.start.judged .equation (Lexeme.readAll text).lexemes
  · simp [parse, ofReading, Conversion.run_expression, judgedLexemes, meetsUnknown]
  · simp [parse, ofReading, Conversion.run_expression, judgedLexemes, meetsUnknown]

/-- An equation refers to the unknown exactly if the unknown is among its lexemes. -/
theorem hasUnknown_iff_mem_judged {text : List Char} {equation : Expression}
    (accepted : parse .equation text = .ok equation) :
    equation.hasUnknown = true ↔ .unknown ∈ judgedLexemes text := by
  rcases parse_eq_ok_iff.mp accepted with ⟨-, final, runs, finishes⟩
  rw [Conversion.hasUnknown_of_finish finishes, Conversion.hasUnknown_of_visits (.of_run runs),
    judgedLexemes, Conversion.judged_of_run runs]

/-- An equation without unknown is an arithmetic text with the same program, and one with the
unknown is none. A text that is no equation has the same fault as an arithmetic text, unless the
unknown is among the lexemes by which it is judged. So every arithmetic text is an equation without
unknown. -/
theorem parse_expression_agrees_with_equation (text : List Char) :
    (∀ equation, parse .equation text = .ok equation → equation.hasUnknown = false →
      parse .expression text = .ok equation) ∧
    (∀ equation, parse .equation text = .ok equation → equation.hasUnknown = true →
      parse .expression text = .error .invalidExpression) ∧
    (∀ fault, parse .equation text = .error fault →
      parse .expression text =
        .error (if .unknown ∈ judgedLexemes text then .invalidExpression else fault)) ∧
    ∀ expression, parse .expression text = .ok expression →
      parse .equation text = .ok expression ∧ expression.hasUnknown = false := by
  refine ⟨?_, ?_, ?_, ?_⟩
  · intro equation accepted noUnknown
    have unmet : .unknown ∉ judgedLexemes text := by
      rw [← hasUnknown_iff_mem_judged accepted, noUnknown]
      decide
    rw [parse_expression_eq, if_neg unmet, accepted]
  · intro equation accepted hasUnknown
    rw [parse_expression_eq, if_pos ((hasUnknown_iff_mem_judged accepted).mp hasUnknown)]
  · intro fault rejected
    rw [parse_expression_eq, rejected]
    split <;> rfl
  · intro expression accepted
    rw [parse_expression_eq] at accepted
    split at accepted
    · contradiction
    · next unmet =>
      refine ⟨accepted, ?_⟩
      rw [Bool.eq_false_iff, ne_eq, hasUnknown_iff_mem_judged accepted]
      exact unmet

/-- The number behind `2` is misplaced before the unknown is read, and the one behind `x` after
it. -/
theorem parse_expression_of_misplaced_number :
    (parse .equation ['2', ' ', '3', 'x'] = .error .numberUsage ∧
      parse .expression ['2', ' ', '3', 'x'] = .error .numberUsage) ∧
    (parse .equation ['x', ' ', '3', '/', '2'] = .error .numberUsage ∧
      parse .expression ['x', ' ', '3', '/', '2'] = .error .invalidExpression) ∧
    (parse .equation ['2', '/', 'x'] = .ok ⟨[.number 2.0, .unknown, .operator .divide], true⟩ ∧
      parse .expression ['2', '/', 'x'] = .error .invalidExpression) ∧
    parse .equation ['2', '/', '3'] =
        .ok ⟨[.number 2.0, .number 3.0, .operator .divide], false⟩ ∧
      parse .expression ['2', '/', '3'] =
        .ok ⟨[.number 2.0, .number 3.0, .operator .divide], false⟩ := by
  have early : parse .equation ['2', ' ', '3', 'x'] = .error .numberUsage := by decide +kernel
  have late : parse .equation ['x', ' ', '3', '/', '2'] = .error .numberUsage := by decide +kernel
  have unknown : parse .equation ['2', '/', 'x'] =
      .ok ⟨[.number 2.0, .unknown, .operator .divide], true⟩ := by
    decide +kernel
  have number : parse .equation ['2', '/', '3'] =
      .ok ⟨[.number 2.0, .number 3.0, .operator .divide], false⟩ := by
    decide +kernel
  have unmet : .unknown ∉ judgedLexemes ['2', ' ', '3', 'x'] := by decide +kernel
  have met : .unknown ∈ judgedLexemes ['x', ' ', '3', '/', '2'] := by decide +kernel
  refine ⟨⟨early, ?_⟩, ⟨late, ?_⟩, ⟨unknown, ?_⟩, number, ?_⟩
  · simpa [unmet] using (parse_expression_agrees_with_equation _).2.2.1 _ early
  · simpa [met] using (parse_expression_agrees_with_equation _).2.2.1 _ late
  · exact (parse_expression_agrees_with_equation _).2.1 _ unknown rfl
  · exact (parse_expression_agrees_with_equation _).1 _ number rfl

end Expression

end Reckoner
