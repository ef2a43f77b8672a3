import Mathlib.Data.List.Induction
import Reckoner.Expression.Conversion

/-!
# What a conversion can take

The ways in which a conversion goes on at a lexeme, one constructor each, with the state that
follows. A result about every lexeme that is taken is one case analysis of these ways, and what
every lexeme keeps up holds of all states that a conversion visits.
-/

namespace Reckoner

namespace Expression

variable {mode : Mode} {state next : Conversion} {lexeme : Lexeme} {next? : Option Lexeme}

/-- What is taken, in front of which lexeme, and which state it leads to. -/
inductive Takes (mode : Mode) (state : Conversion) :
    Lexeme → Option Lexeme → Conversion → Prop where
  | number {next? : Option Lexeme} (numeral : Numeral) (expects : state.expectsOperand = true) :
      Takes mode state (.number numeral) next? (state.operand (.number numeral.value))
  | unknown {next? : Option Lexeme} (isEquation : mode = .equation)
      (expects : state.expectsOperand = true) :
      Takes mode state .unknown next? { state.operand .unknown with hasUnknown := true }
  | sign {next? : Option Lexeme} {symbol : Operator} {sign : Sign}
      (isSign : symbol.sign? = some sign) (expects : state.expectsOperand = true) :
      Takes mode state (.operator symbol) next? (state.wait (.sign sign))
  | operator {next? : Option Lexeme} (symbol : Operator) (complete : state.expectsOperand = false) :
      Takes mode state (.operator symbol) next? (state.operator symbol)
  | function (called : Function) (expects : state.expectsOperand = true) :
      Takes mode state (.function called) (some .openBrace) (state.wait (.function called))
  | openBrace {next? : Option Lexeme} (expects : state.expectsOperand = true) :
      Takes mode state .openBrace next? (state.wait .openBrace)
  | closeBrace {next? : Option Lexeme} {waiting : List Pending}
      (complete : state.expectsOperand = false)
      (opened : state.pending.dropWhile (· != .openBrace) = .openBrace :: waiting)
      (notCalled : ∀ called below, waiting ≠ .function called :: below) :
      Takes mode state .closeBrace next?
        { state with
          output := state.output ++
            (state.pending.takeWhile (· != .openBrace)).filterMap Pending.instruction?
          pending := waiting
          isAtStart := false }
  | closeCall {next? : Option Lexeme} {called : Function} {waiting : List Pending}
      (complete : state.expectsOperand = false)
      (opened : state.pending.dropWhile (· != .openBrace) =
        .openBrace :: .function called :: waiting) :
      Takes mode state .closeBrace next?
        { state with
          output := (state.output ++
            (state.pending.takeWhile (· != .openBrace)).filterMap Pending.instruction?).push
              (.function called)
          pending := waiting
          isAtStart := false }

namespace Pending

theorem not_of_dropWhile_eq_cons {isComplete : Pending → Bool} {pending waiting : List Pending}
    {entry : Pending} (left : pending.dropWhile isComplete = entry :: waiting) :
    isComplete entry = false := by
  have stopped := List.head?_dropWhile_not isComplete pending
  simpa [left] using stopped

theorem eq_openBrace_of_dropWhile_eq_cons {pending waiting : List Pending} {entry : Pending}
    (left : pending.dropWhile (· != .openBrace) = entry :: waiting) : entry = .openBrace := by
  simpa using not_of_dropWhile_eq_cons left

/-- What is complete before a brace that is open holds no open brace. -/
theorem count_dropWhile (isComplete : Pending → Bool) (stops : isComplete .openBrace = false)
    (pending : List Pending) :
    (pending.dropWhile isComplete).count .openBrace = pending.count .openBrace := by
  induction pending with
  | nil => rfl
  | cons entry pending ih =>
      cases taken : isComplete entry with
      | false => simp [taken]
      | true =>
          have notOpen : entry ≠ .openBrace := by
            rintro rfl
            rw [stops] at taken
            contradiction
          simp [taken, ih, notOpen]

theorem count_of_dropWhile_eq_cons {pending waiting : List Pending}
    (opened : pending.dropWhile (· != .openBrace) = .openBrace :: waiting) :
    pending.count .openBrace = waiting.count .openBrace + 1 := by
  rw [← count_dropWhile (· != .openBrace) (by decide), opened, List.count_cons_self]

end Pending

namespace Takes

theorem of_closeBrace (closes : state.closeBrace = .ok next) :
    Takes mode state .closeBrace next? next := by
  simp only [Conversion.closeBrace] at closes
  split at closes
  · contradiction
  next complete =>
  rw [Bool.not_eq_true] at complete
  split at closes
  · contradiction
  · next entry called waiting left =>
    obtain rfl := Pending.eq_openBrace_of_dropWhile_eq_cons left
    cases closes
    exact .closeCall complete left
  · next entry waiting notCalled left =>
    obtain rfl := Pending.eq_openBrace_of_dropWhile_eq_cons left
    cases closes
    exact .closeBrace complete left notCalled

/-- A conversion goes on at a lexeme in one of these ways only. -/
theorem of_step (steps : state.step mode lexeme next? = .ok next) :
    Takes mode state lexeme next? next := by
  cases lexeme with
  | number numeral =>
      simp only [Conversion.step] at steps
      split at steps
      · next expects =>
        cases steps
        exact .number numeral expects
      · contradiction
  | unknown =>
      simp only [Conversion.step] at steps
      split at steps
      · contradiction
      next notExpression =>
      split at steps
      · next expects =>
        cases steps
        cases mode with
        | expression => exact absurd rfl notExpression
        | equation => exact .unknown rfl expects
      · contradiction
  | operator symbol =>
      simp only [Conversion.step] at steps
      split at steps
      · next expects =>
        split at steps
        · next sign isSign =>
          cases steps
          exact .sign isSign expects
        · contradiction
      · next complete =>
        rw [Bool.not_eq_true] at complete
        cases steps
        exact .operator symbol complete
  | function called =>
      simp only [Conversion.step] at steps
      split at steps
      · next isCalled =>
        cases steps
        rw [isCalled.2]
        exact .function called isCalled.1
      · contradiction
  | openBrace =>
      simp only [Conversion.step] at steps
      split at steps
      · next expects =>
        cases steps
        exact .openBrace expects
      · contradiction
  | closeBrace => exact of_closeBrace steps

end Takes

/-- The states that a conversion comes to, each behind the lexemes that it has taken and in front of
the lexeme that follows. -/
inductive Visits (mode : Mode) : List Lexeme → Option Lexeme → Conversion → Prop where
  | start {next? : Option Lexeme} : Visits mode [] next? .start
  | step {before : List Lexeme} {lexeme : Lexeme} {next? : Option Lexeme}
      {state next : Conversion} (visits : Visits mode before (some lexeme) state)
      (steps : state.step mode lexeme next? = .ok next) :
      Visits mode (before ++ [lexeme]) next? next

namespace Visits

/-- A conversion that takes all lexemes comes to a state between any two of them, and goes on from
there. The induction is on the lexemes before the place, of which the last one is the first to
follow an earlier place. -/
theorem exists_of_run_append {before following : List Lexeme} {final : Conversion}
    (runs : Conversion.start.run mode (before ++ following) = .ok final) :
    ∃ state, Visits mode before following.head? state ∧ state.run mode following = .ok final := by
  induction before using List.reverseRecOn generalizing following with
  | nil => exact ⟨.start, .start, runs⟩
  | append_singleton before lexeme ih =>
      rw [List.append_assoc, List.singleton_append] at runs
      rcases ih runs with ⟨state, visits, runs⟩
      simp only [Conversion.run] at runs
      split at runs
      · contradiction
      · next next steps => exact ⟨next, visits.step steps, runs⟩

theorem of_run {lexemes : List Lexeme} {final : Conversion}
    (runs : Conversion.start.run mode lexemes = .ok final) : Visits mode lexemes none final := by
  rw [← List.append_nil lexemes] at runs
  rcases exists_of_run_append runs with ⟨state, visits, ends⟩
  cases ends
  exact visits

end Visits

end Expression

end Reckoner
