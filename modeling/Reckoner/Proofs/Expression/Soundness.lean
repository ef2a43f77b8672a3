import Mathlib.Data.List.TakeWhile
import Reckoner.Proofs.Expression.Completeness
import Reckoner.Proofs.Expression.Taking

/-!
# What is converted is an expression

The state of a conversion stands for an expression that has been read in part. Where an operand has
to follow, what waits is a row of open braces, signs and operators whose left operands are complete,
each with the lexemes that it was read from. Behind an operand, the row is followed by the tree of
that operand. Every lexeme keeps that form, so a conversion that ends has read an expression.

Together with the other direction this says which texts are accepted, and that their program is the
postorder of their only tree.
-/

namespace Reckoner

namespace Expression

variable {mode : Mode}

/-- What has been read, put out and left waiting where an operand has to follow. -/
inductive Opens (mode : Mode) : List Lexeme → List Instruction → List Pending → Prop where
  | start : Opens mode [] [] []
  | brace {lexemes : List Lexeme} {output : List Instruction} {pending : List Pending}
      (before : Opens mode lexemes output pending) :
      Opens mode (lexemes ++ [.openBrace]) output (.openBrace :: pending)
  | call {lexemes : List Lexeme} {output : List Instruction} {pending : List Pending}
      (called : Function) (before : Opens mode lexemes output pending) :
      Opens mode (lexemes ++ [.function called, .openBrace]) output
        (.openBrace :: .function called :: pending)
  | sign {lexemes : List Lexeme} {output : List Instruction} {pending : List Pending}
      {symbol : Operator} {sign : Sign} (isSign : symbol.sign? = some sign)
      (before : Opens mode lexemes output pending) :
      Opens mode (lexemes ++ [.operator symbol]) output (.sign sign :: pending)
  | operator {lexemes operand : List Lexeme} {output : List Instruction} {pending : List Pending}
      {tree : Tree} (symbol : Operator) (before : Opens mode lexemes output pending)
      (fits : Pending.nextPriority pending ≤ symbol.priority)
      (left : Reads mode symbol.leftPriority operand tree) :
      Opens mode (lexemes ++ operand ++ [.operator symbol]) (output ++ tree.program)
        (.operator symbol :: pending)

/-- What has been read and put out behind an operand that binds at least as tightly as the given
priority. -/
structure Completes (mode : Mode) (priority : Priority) (lexemes : List Lexeme)
    (output : List Instruction) (pending : List Pending) : Prop where
  parts : ∃ earlier operand earlierOutput tree,
    Opens mode earlier earlierOutput pending ∧ Reads mode priority operand tree ∧
      lexemes = earlier ++ operand ∧ output = earlierOutput ++ tree.program

/-- The state of a conversion behind lexemes, where the lexeme that follows is known. -/
inductive Reaches (mode : Mode) : List Lexeme → Option Lexeme → Conversion → Prop where
  | opens {lexemes : List Lexeme} {next? : Option Lexeme} {state : Conversion}
      (expects : state.expectsOperand = true)
      (waits : Opens mode lexemes state.output.toList state.pending) :
      Reaches mode lexemes next? state
  | called {lexemes : List Lexeme} {state : Conversion} {called : Function} {pending : List Pending}
      (expects : state.expectsOperand = true) (top : state.pending = .function called :: pending)
      (waits : Opens mode lexemes state.output.toList pending) :
      Reaches mode (lexemes ++ [.function called]) (some .openBrace) state
  | completes {lexemes : List Lexeme} {next? : Option Lexeme} {state : Conversion}
      (complete : state.expectsOperand = false)
      (parts : Completes mode .sign lexemes state.output.toList state.pending) :
      Reaches mode lexemes next? state

namespace Pending

/-- What is left after the entries that are complete before an operator awaits an operand that may
hold it. -/
theorem nextPriority_dropWhile_le (symbol : Operator) (pending : List Pending) :
    nextPriority (pending.dropWhile (yieldsTo symbol)) ≤ symbol.priority := by
  cases left : pending.dropWhile (yieldsTo symbol) with
  | nil => exact Priority.additive_le _
  | cons entry waiting =>
      have stays := not_of_dropWhile_eq_cons left
      rw [← Bool.not_eq_true, yieldsTo_iff, Decidable.not_not] at stays
      exact stays

end Pending

namespace Opens

theorem not_function {lexemes : List Lexeme} {output : List Instruction} {pending : List Pending}
    {called : Function} : ¬Opens mode lexemes output (.function called :: pending) := by
  intro waits
  cases waits

/-- Taking off the operators and signs that an operand belongs to makes them part of the operand. -/
theorem complete {lexemes operand : List Lexeme} {output : List Instruction}
    {pending : List Pending} {tree : Tree} {priority least : Priority} {isComplete : Pending → Bool}
    (waits : Opens mode lexemes output pending) (reads : Reads mode priority operand tree)
    (fits : Pending.nextPriority pending ≤ priority) (stops : isComplete .openBrace = false)
    (isLeast : least ≤ priority)
    (operatorLeast : ∀ symbol, isComplete (.operator symbol) = true → least ≤ symbol.priority) :
    Completes mode least (lexemes ++ operand)
      (output ++ tree.program ++ (pending.takeWhile isComplete).filterMap Pending.instruction?)
      (pending.dropWhile isComplete) := by
  have unchanged {lexemes operand : List Lexeme} {output : List Instruction} {tree : Tree}
      {pending : List Pending} {priority : Priority} (waits : Opens mode lexemes output pending)
      (reads : Reads mode priority operand tree) (isLeast : least ≤ priority) :
      Completes mode least (lexemes ++ operand) (output ++ tree.program) pending :=
    ⟨lexemes, operand, output, tree, waits, .weaken isLeast reads, rfl, rfl⟩
  induction waits generalizing operand tree priority with
  | start => simpa using unchanged .start reads isLeast
  | brace before _ => simpa [stops] using unchanged before.brace reads isLeast
  | call called before _ => simpa [stops] using unchanged (before.call called) reads isLeast
  | @sign lexemes output pending symbol sign isSign before ih =>
      cases taken : isComplete (.sign sign) with
      | false => simpa [taken] using unchanged (before.sign isSign) reads isLeast
      | true =>
          have signed : Reads mode .sign (.operator symbol :: operand) (.sign sign tree) :=
            .sign isSign (.weaken fits reads)
          have grown := ih signed (Priority.le_sign _) (Priority.le_sign _)
          simpa [taken, Tree.program, Pending.instruction?] using grown
  | @operator lexemes leftLexemes output pending leftTree symbol before fitsBefore left ih =>
      cases taken : isComplete (.operator symbol) with
      | false =>
        simpa [taken] using unchanged (before.operator symbol fitsBefore left) reads isLeast
      | true =>
          have operation := Reads.operation symbol left (.weaken fits reads)
          have grown := ih operation fitsBefore (operatorLeast symbol taken)
          simpa [taken, Tree.program, Pending.instruction?] using grown

end Opens

namespace Completes

theorem complete {least : Priority} {lexemes : List Lexeme} {output : List Instruction}
    {pending : List Pending} (isComplete : Pending → Bool)
    (completes : Completes mode .sign lexemes output pending)
    (stops : isComplete .openBrace = false)
    (operatorLeast : ∀ symbol, isComplete (.operator symbol) = true → least ≤ symbol.priority) :
    Completes mode least lexemes
      (output ++ (pending.takeWhile isComplete).filterMap Pending.instruction?)
      (pending.dropWhile isComplete) := by
  rcases completes.parts with ⟨earlier, operand, earlierOutput, tree, waits, reads, rfl, rfl⟩
  exact waits.complete reads (Priority.le_sign _) stops (Priority.le_sign _) operatorLeast

theorem of_operand {lexemes operand : List Lexeme} {output : List Instruction}
    {pending : List Pending} {tree : Tree} (waits : Opens mode lexemes output pending)
    (reads : Reads mode .sign operand tree) :
    Completes mode .sign (lexemes ++ operand) (output ++ tree.program) pending :=
  ⟨lexemes, operand, output, tree, waits, reads, rfl, rfl⟩

/-- An operator behind its complete left operand opens the right one. -/
theorem operator {lexemes : List Lexeme} {output : List Instruction} {pending : List Pending}
    (symbol : Operator) (completes : Completes mode .sign lexemes output pending) :
    Opens mode (lexemes ++ [.operator symbol])
      (output ++ (pending.takeWhile (Pending.yieldsTo symbol)).filterMap Pending.instruction?)
      (.operator symbol :: pending.dropWhile (Pending.yieldsTo symbol)) := by
  have operatorLeast : ∀ before : Operator, (Pending.operator before).yieldsTo symbol = true →
      symbol.leftPriority ≤ before.priority := by
    intro before yields
    exact Operator.leftPriority_le_priority ((Pending.yieldsTo_iff symbol _).mp yields)
  rcases (completes.complete (Pending.yieldsTo symbol) rfl operatorLeast).parts with
    ⟨earlier, operand, earlierOutput, tree, waits, reads, lexemesEq, outputEq⟩
  rw [lexemesEq, outputEq]
  exact waits.operator symbol (Pending.nextPriority_dropWhile_le symbol pending) reads

theorem closeBrace {lexemes : List Lexeme} {output : List Instruction} {pending : List Pending}
    (completes : Completes mode .additive lexemes output (.openBrace :: pending))
    (notCalled : ∀ called waiting, pending ≠ .function called :: waiting) :
    Completes mode .sign (lexemes ++ [.closeBrace]) output pending := by
  rcases completes.parts with ⟨earlier, operand, earlierOutput, tree, waits, reads, rfl, rfl⟩
  cases waits with
  | brace before => simpa using of_operand before reads.braces
  | call called before => exact absurd rfl (notCalled _ _)

theorem closeCall {lexemes : List Lexeme} {output : List Instruction} {pending : List Pending}
    {called : Function}
    (completes :
      Completes mode .additive lexemes output (.openBrace :: .function called :: pending)) :
    Completes mode .sign (lexemes ++ [.closeBrace]) (output ++ [.function called]) pending := by
  rcases completes.parts with ⟨earlier, operand, earlierOutput, tree, waits, reads, rfl, rfl⟩
  cases waits with
  | brace before => exact absurd before Opens.not_function
  | call called before => simpa [Tree.program] using of_operand before (reads.call called)

end Completes

namespace Reaches

theorem of_opens {lexemes : List Lexeme} {lexeme : Lexeme} {next? : Option Lexeme}
    {state next : Conversion} (expects : state.expectsOperand = true)
    (waits : Opens mode lexemes state.output.toList state.pending)
    (takes : Takes mode state lexeme next? next) :
    Reaches mode (lexemes ++ [lexeme]) next? next := by
  cases takes with
  | number numeral _ =>
      refine .completes rfl ?_
      simpa [Conversion.operand, Tree.program] using Completes.of_operand waits (.number numeral)
  | unknown isEquation _ =>
      refine .completes rfl ?_
      simpa [Conversion.operand, Tree.program] using
        Completes.of_operand waits (.unknown isEquation)
  | sign isSign _ => exact .opens expects (waits.sign isSign)
  | function called _ => exact .called expects rfl waits
  | openBrace _ => exact .opens expects waits.brace
  | operator _ complete | closeBrace complete _ _ | closeCall complete _ =>
      rw [expects] at complete
      contradiction

theorem of_completes {lexemes : List Lexeme} {lexeme : Lexeme} {next? : Option Lexeme}
    {state next : Conversion} (complete : state.expectsOperand = false)
    (parts : Completes mode .sign lexemes state.output.toList state.pending)
    (takes : Takes mode state lexeme next? next) :
    Reaches mode (lexemes ++ [lexeme]) next? next := by
  have inside := parts.complete (· != .openBrace) (by decide)
    (fun _ _ => Priority.additive_le _)
  cases takes with
  | operator symbol _ =>
      refine .opens rfl ?_
      simpa [Conversion.operator] using parts.operator symbol
  | closeBrace _ opened notCalled =>
      rw [opened] at inside
      exact .completes complete (by simpa using inside.closeBrace notCalled)
  | closeCall _ opened =>
      rw [opened] at inside
      exact .completes complete (by simpa using inside.closeCall)
  | number _ expects | unknown _ expects | sign _ expects | function _ expects
  | openBrace expects =>
      rw [complete] at expects
      contradiction

/-- Every lexeme that is taken keeps the form of what waits. -/
theorem step {lexemes : List Lexeme} {lexeme : Lexeme} {next? : Option Lexeme}
    {state next : Conversion} (reaches : Reaches mode lexemes (some lexeme) state)
    (takes : Takes mode state lexeme next? next) :
    Reaches mode (lexemes ++ [lexeme]) next? next := by
  cases reaches with
  | opens expects waits => exact of_opens expects waits takes
  | completes complete parts => exact of_completes complete parts takes
  | @called lexemes _ called pending expects top waits =>
      cases takes with
      | openBrace _ =>
          refine .opens expects ?_
          simpa [Conversion.wait, top] using waits.call called

/-- A conversion that ends has read an expression and put out its postorder. -/
theorem finish {lexemes : List Lexeme} {state : Conversion} {expression : Expression}
    (reaches : Reaches mode lexemes none state) (finishes : state.finish = .ok expression) :
    ∃ tree, Reads mode .additive lexemes tree ∧ expression.program = tree.program := by
  cases reaches with
  | opens expects waits =>
      simp only [Conversion.finish, expects, if_true] at finishes
      split at finishes <;> contradiction
  | completes complete parts =>
      simp only [Conversion.finish, complete, Bool.false_eq_true, if_false] at finishes
      split at finishes
      · contradiction
      split at finishes
      · contradiction
      next noBrace =>
      cases finishes
      have inside : ∀ entry ∈ state.pending, (entry != .openBrace) = true := by
        intro entry member
        rw [bne_iff_ne]
        rintro rfl
        exact noBrace member
      have whole := parts.complete (· != .openBrace) (by decide)
        (fun _ _ => Priority.additive_le _)
      rw [List.takeWhile_eq_self_iff.mpr inside, List.dropWhile_eq_nil_iff.mpr inside] at whole
      rcases whole.parts with ⟨earlier, operand, earlierOutput, tree, waits, reads, rfl, outputEq⟩
      cases waits
      exact ⟨tree, by simpa using reads, by simpa using outputEq⟩

end Reaches

theorem Visits.reaches {lexemes : List Lexeme} {next? : Option Lexeme} {state : Conversion}
    (visits : Visits mode lexemes next? state) : Reaches mode lexemes next? state := by
  induction visits with
  | start => exact .opens rfl .start
  | step _ steps ih => exact ih.step (.of_step steps)

end Expression

end Reckoner
