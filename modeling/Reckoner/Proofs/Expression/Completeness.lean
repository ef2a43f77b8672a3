import Reckoner.Proofs.Expression.Grammar

/-!
# Every expression is converted

Lexemes that stand for a tree are converted to the postorder of that tree. The conversion puts a
part of the postorder out while it reads and keeps the rest waiting, on top of whatever waited
before; the waiting rest consists of the signs and operators that the last operand still belongs to.
What waited before is not touched, because nothing in the lexemes is weaker than the operand that it
waits for.

Two trees of the same lexemes therefore have the same postorder, so they are the same tree.
-/

namespace Reckoner

namespace Expression

namespace Pending

/-- The least binding strength of the operand that something waits for. -/
def operandPriority : Pending → Priority
  | openBrace | function _ => .additive
  | sign _ => .sign
  | operator symbol => symbol.rightPriority

/-- The least binding strength of the next operand. -/
def nextPriority : List Pending → Priority
  | [] => .additive
  | entry :: _ => entry.operandPriority

/-- Whether something that waits is a sign, or an operator of at least the given binding strength.
-/
def BindsAtLeast (priority : Priority) : Pending → Prop
  | openBrace | function _ => False
  | sign _ => True
  | operator symbol => priority ≤ symbol.priority

/-- What waits is complete before an operator exactly if the operand it waits for binds tighter. -/
theorem yieldsTo_iff (next : Operator) (entry : Pending) :
    entry.yieldsTo next = true ↔ ¬entry.operandPriority ≤ next.priority := by
  cases entry with
  | openBrace => cases next <;> decide
  | function called => cases next <;> simp only [yieldsTo, operandPriority] <;> decide
  | sign symbol => cases next <;> simp only [yieldsTo, operandPriority] <;> decide
  | operator symbol => cases next <;> cases symbol <;> decide

namespace BindsAtLeast

theorem yieldsTo {next : Operator} {entry : Pending}
    (binds : entry.BindsAtLeast next.leftPriority) :
    entry.yieldsTo next = true := by
  cases entry with
  | openBrace => exact absurd binds id
  | function called => exact absurd binds id
  | sign symbol => rfl
  | operator symbol =>
      cases next <;> cases symbol <;> revert binds <;> simp only [BindsAtLeast] <;> decide

theorem ne_openBrace {priority : Priority} {entry : Pending} (binds : entry.BindsAtLeast priority) :
    entry ≠ .openBrace := by
  rintro rfl
  exact binds

theorem mono {weaker stronger : Priority} {entry : Pending} (isWeaker : weaker ≤ stronger)
    (binds : entry.BindsAtLeast stronger) : entry.BindsAtLeast weaker := by
  cases entry with
  | openBrace => exact binds
  | function called => exact binds
  | sign symbol => exact binds
  | operator symbol => exact Priority.le_trans isWeaker binds

end BindsAtLeast

theorem dropWhile_eq_self {next : Operator} {pending : List Pending}
    (fits : nextPriority pending ≤ next.priority) :
    pending.takeWhile (yieldsTo next) = [] ∧ pending.dropWhile (yieldsTo next) = pending := by
  cases pending with
  | nil => exact ⟨rfl, rfl⟩
  | cons entry waiting =>
      have stays : entry.yieldsTo next = false := by
        rw [Bool.eq_false_iff, ne_eq, yieldsTo_iff, Decidable.not_not]
        exact fits
      simp [stays]

theorem span_openBrace {spine : List Pending} (before : List Pending)
    (binds : ∀ entry ∈ spine, entry.BindsAtLeast .additive) :
    (spine ++ .openBrace :: before).takeWhile (· != .openBrace) = spine ∧
      (spine ++ .openBrace :: before).dropWhile (· != .openBrace) = .openBrace :: before := by
  have inside : ∀ entry ∈ spine, (entry != .openBrace) = true := by
    intro entry member
    simpa using (binds entry member).ne_openBrace
  rw [List.takeWhile_append_of_pos inside, List.dropWhile_append_of_pos inside]
  simp

end Pending

namespace Conversion

variable {mode : Mode}

theorem run_cons_of_step {state next : Conversion} {lexeme : Lexeme} {lexemes : List Lexeme}
    (steps : state.step mode lexeme lexemes.head? = .ok next) :
    state.run mode (lexeme :: lexemes) = next.run mode lexemes := by
  simp only [run, steps]

/-- An operator completes the left operand that has been read and leaves what waited before. -/
theorem operator_eq {state : Conversion} {symbol : Operator} {spine before : List Pending}
    (waits : state.pending = spine ++ before)
    (binds : ∀ entry ∈ spine, entry.BindsAtLeast symbol.leftPriority)
    (fits : Pending.nextPriority before ≤ symbol.priority) :
    state.operator symbol =
      { state with
        output := state.output ++ spine.filterMap Pending.instruction?
        pending := .operator symbol :: before
        expectsOperand := true
        isAtStart := false } := by
  have yields : ∀ entry ∈ spine, entry.yieldsTo symbol = true :=
    fun entry member => (binds entry member).yieldsTo
  have stays := Pending.dropWhile_eq_self fits
  simp only [operator, waits]
  rw [List.takeWhile_append_of_pos yields, List.dropWhile_append_of_pos yields, stays.1, stays.2,
    List.append_nil]

/-- A closing brace completes what has been read since the brace was opened. -/
theorem closeBrace_eq {state : Conversion} {spine before : List Pending}
    (waits : state.pending = spine ++ .openBrace :: before)
    (binds : ∀ entry ∈ spine, entry.BindsAtLeast .additive)
    (complete : state.expectsOperand = false)
    (notCalled : ∀ called waiting, before ≠ .function called :: waiting) :
    state.closeBrace =
      .ok { state with
        output := state.output ++ spine.filterMap Pending.instruction?
        pending := before
        isAtStart := false } := by
  have inside := Pending.span_openBrace before binds
  simp only [closeBrace, complete, waits, inside.1, inside.2, Bool.false_eq_true, if_false]

theorem closeBrace_eq_of_function {state : Conversion} {spine before : List Pending}
    {called : Function}
    (waits : state.pending = spine ++ .openBrace :: .function called :: before)
    (binds : ∀ entry ∈ spine, entry.BindsAtLeast .additive)
    (complete : state.expectsOperand = false) :
    state.closeBrace =
      .ok { state with
        output := (state.output ++ spine.filterMap Pending.instruction?).push (.function called)
        pending := before
        isAtStart := false } := by
  have inside := Pending.span_openBrace (.function called :: before) binds
  simp only [closeBrace, complete, waits, inside.1, inside.2, Bool.false_eq_true, if_false]

/-- The state `next` is `state` with an operand added: the postorder of the operand's tree is partly
put out, and the rest of it waits on top. -/
structure Adds (priority : Priority) (tree : Tree) (state next : Conversion) : Prop where
  complete : next.expectsOperand = false
  notAtStart : next.isAtStart = false
  postorder : ∃ output spine,
    next.output.toList = state.output.toList ++ output ∧ next.pending = spine ++ state.pending ∧
      (∀ entry ∈ spine, entry.BindsAtLeast priority) ∧
      output ++ spine.filterMap Pending.instruction? = tree.program

/-- The state `state` awaits an operand of at least the given binding strength, which no function
calls. -/
structure Awaits (priority : Priority) (state : Conversion) : Prop where
  expects : state.expectsOperand = true
  fits : Pending.nextPriority state.pending ≤ priority
  notCalled : ∀ called waiting, state.pending ≠ .function called :: waiting

theorem Adds.operator {symbol : Operator} {tree : Tree} {state next : Conversion}
    (awaits : state.Awaits symbol.priority) (adds : Adds symbol.leftPriority tree state next) :
    (next.operator symbol).Awaits symbol.rightPriority ∧
      (next.operator symbol).output.toList = state.output.toList ++ tree.program ∧
      (next.operator symbol).pending = .operator symbol :: state.pending := by
  rcases adds.postorder with ⟨output, spine, outputEq, pendingEq, binds, postorder⟩
  rw [operator_eq pendingEq binds awaits.fits]
  refine ⟨⟨rfl, Nat.le_refl _, by simp⟩, ?_, rfl⟩
  simp only [Array.toList_appendList, outputEq, List.append_assoc, postorder]

theorem Adds.closeBrace {tree : Tree} {state next : Conversion} {priority : Priority}
    (awaits : state.Awaits priority) (adds : Adds .additive tree (state.wait .openBrace) next) :
    ∃ closed, next.closeBrace = .ok closed ∧ Adds .sign tree state closed := by
  rcases adds.postorder with ⟨output, spine, outputEq, pendingEq, binds, postorder⟩
  refine ⟨_, closeBrace_eq pendingEq binds adds.complete awaits.notCalled, adds.complete, rfl,
    tree.program, [], ?_, rfl, by simp, by simp⟩
  simp only [Array.toList_appendList, outputEq, wait, List.append_assoc, postorder]

theorem Adds.closeCall {tree : Tree} {state next : Conversion} {called : Function}
    (adds : Adds .additive tree ((state.wait (.function called)).wait .openBrace) next) :
    ∃ closed, next.closeBrace = .ok closed ∧ Adds .sign (.function called tree) state closed := by
  rcases adds.postorder with ⟨output, spine, outputEq, pendingEq, binds, postorder⟩
  refine ⟨_, closeBrace_eq_of_function pendingEq binds adds.complete, adds.complete, rfl,
    (Tree.function called tree).program, [], ?_, rfl, by simp, by simp⟩
  simp [outputEq, wait, Tree.program, ← postorder]

end Conversion

namespace Reads

open Conversion

variable {mode : Mode}

/-- Lexemes that stand for a tree are converted to its postorder wherever their operand is awaited.
-/
theorem run_append {priority : Priority} {lexemes : List Lexeme} {tree : Tree}
    (reads : Reads mode priority lexemes tree) {state : Conversion}
    (awaits : state.Awaits priority) :
    ∃ next, Adds priority tree state next ∧
      ∀ following, state.run mode (lexemes ++ following) = next.run mode following := by
  induction reads generalizing state with
  | number numeral =>
      refine ⟨state.operand (.number numeral.value),
        ⟨rfl, rfl, [.number numeral.value], [], ?_⟩, ?_⟩
      · simp [operand, Tree.program]
      · intro following
        exact run_cons_of_step (by simp [step, awaits.expects])
  | unknown isEquation =>
      subst isEquation
      refine ⟨{ state.operand .unknown with hasUnknown := true },
        ⟨rfl, rfl, [.unknown], [], ?_⟩, ?_⟩
      · simp [operand, Tree.program]
      · intro following
        exact run_cons_of_step (by simp [step, awaits.expects])
  | @braces lexemes tree _ ih =>
      have opened : (state.wait .openBrace).Awaits .additive :=
        ⟨awaits.expects, Nat.le_refl _, by simp [wait]⟩
      rcases ih opened with ⟨inside, adds, runs⟩
      rcases adds.closeBrace awaits with ⟨closed, closes, addsClosed⟩
      refine ⟨closed, addsClosed, ?_⟩
      intro following
      have opens : state.step mode .openBrace (lexemes ++ .closeBrace :: following).head? =
          .ok (state.wait .openBrace) := by
        simp [step, awaits.expects]
      simp only [List.cons_append, List.append_assoc, List.nil_append]
      rw [run_cons_of_step opens, runs]
      exact run_cons_of_step closes
  | @call lexemes tree called _ ih =>
      have opened : ((state.wait (.function called)).wait .openBrace).Awaits .additive :=
        ⟨awaits.expects, Nat.le_refl _, by simp [wait]⟩
      rcases ih opened with ⟨inside, adds, runs⟩
      rcases adds.closeCall with ⟨closed, closes, addsClosed⟩
      refine ⟨closed, addsClosed, ?_⟩
      intro following
      have calls : state.step mode (.function called)
          (.openBrace :: (lexemes ++ .closeBrace :: following)).head? =
            .ok (state.wait (.function called)) := by
        simp [step, awaits.expects]
      have opens : (state.wait (.function called)).step mode .openBrace
          (lexemes ++ .closeBrace :: following).head? =
            .ok ((state.wait (.function called)).wait .openBrace) := by
        simp [step, wait, awaits.expects]
      simp only [List.cons_append, List.append_assoc, List.nil_append]
      rw [run_cons_of_step calls, run_cons_of_step opens, runs]
      exact run_cons_of_step closes
  | @sign lexemes tree symbol sign isSign _ ih =>
      have signed : (state.wait (.sign sign)).Awaits .sign :=
        ⟨awaits.expects, Nat.le_refl _, by simp [wait]⟩
      rcases ih signed with ⟨next, adds, runs⟩
      rcases adds.postorder with ⟨output, spine, outputEq, pendingEq, binds, postorder⟩
      refine ⟨next,
        ⟨adds.complete, adds.notAtStart, output, spine ++ [.sign sign], outputEq, ?_, ?_, ?_⟩, ?_⟩
      · simp [pendingEq, wait]
      · simp only [List.mem_append, List.mem_singleton]
        rintro entry (member | rfl)
        · exact binds entry member
        · trivial
      · simp [Tree.program, ← postorder, Pending.instruction?]
      · intro following
        rw [← runs]
        exact run_cons_of_step (by simp [step, awaits.expects, isSign])
  | @operation first second leftTree rightTree symbol _ _ ihLeft ihRight =>
      have awaitsLeft : state.Awaits symbol.leftPriority :=
        ⟨awaits.expects, Priority.le_trans awaits.fits symbol.priority_le_leftPriority,
          awaits.notCalled⟩
      rcases ihLeft awaitsLeft with ⟨left, addsLeft, runsLeft⟩
      rcases addsLeft.operator awaits with ⟨awaitsRight, outputLeft, pendingLeft⟩
      rcases ihRight awaitsRight with ⟨next, addsRight, runsRight⟩
      rcases addsRight.postorder with ⟨output, spine, outputEq, pendingEq, binds, postorder⟩
      refine ⟨next, ⟨addsRight.complete, addsRight.notAtStart, leftTree.program ++ output,
        spine ++ [.operator symbol], ?_, ?_, ?_, ?_⟩, ?_⟩
      · rw [outputEq, outputLeft, List.append_assoc]
      · rw [pendingEq, pendingLeft, List.append_assoc, List.singleton_append]
      · simp only [List.mem_append, List.mem_singleton]
        rintro entry (member | rfl)
        · exact (binds entry member).mono symbol.priority_le_rightPriority
        · exact Nat.le_refl _
      · simp [Tree.program, ← postorder, Pending.instruction?]
      · intro following
        rw [List.append_assoc, runsLeft, ← runsRight]
        exact run_cons_of_step (by simp [step, addsLeft.complete])
  | weaken isWeaker _ ih =>
      have stronger := ih ⟨awaits.expects, Priority.le_trans awaits.fits isWeaker, awaits.notCalled⟩
      rcases stronger with ⟨next, adds, runs⟩
      rcases adds.postorder with ⟨output, spine, outputEq, pendingEq, binds, postorder⟩
      refine ⟨next,
        ⟨adds.complete, adds.notAtStart, output, spine, outputEq, pendingEq, ?_, postorder⟩, runs⟩
      exact fun entry member => (binds entry member).mono isWeaker

/-- Lexemes that stand for a tree are converted to its postorder. -/
theorem ofReading_eq {lexemes : List Lexeme} {tree : Tree}
    (reads : Reads mode .additive lexemes tree) :
    ∃ expression, ofReading mode ⟨lexemes, none⟩ = .ok expression ∧
      expression.program = tree.program := by
  have awaits : start.Awaits .additive := ⟨rfl, Nat.le_refl _, by simp [start]⟩
  rcases reads.run_append awaits with ⟨next, adds, runs⟩
  rcases adds.postorder with ⟨output, spine, outputEq, pendingEq, binds, postorder⟩
  have noBrace : .openBrace ∉ next.pending := by
    rw [pendingEq]
    simp only [start, List.append_nil]
    exact fun member => (binds _ member).ne_openBrace rfl
  have runsAll := runs []
  rw [List.append_nil] at runsAll
  refine ⟨⟨(next.output ++ next.pending.filterMap Pending.instruction?).toList, next.hasUnknown⟩,
    ?_, ?_⟩
  · simp [ofReading, runsAll, run, finish, adds.notAtStart, adds.complete, noBrace]
  · simp [outputEq, pendingEq, start, postorder]

/-- Lexemes stand for one tree at most. -/
theorem tree_unique {lexemes : List Lexeme} {first second : Tree}
    (firstReads : Reads mode .additive lexemes first)
    (secondReads : Reads mode .additive lexemes second) : first = second := by
  rcases firstReads.ofReading_eq with ⟨expression, converts, firstProgram⟩
  rcases secondReads.ofReading_eq with ⟨other, convertsAgain, secondProgram⟩
  have same : expression = other := Except.ok.inj (converts.symm.trans convertsAgain)
  subst same
  exact Tree.program_injective (firstProgram.symm.trans secondProgram)

end Reads

end Expression

end Reckoner
