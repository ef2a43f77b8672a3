import Mathlib.Data.List.Chain
import Reckoner.Proofs.Expression.Evaluation
import Reckoner.Proofs.Expression.Offence

/-!
# What waits is in order

What a conversion has put out and what it lets wait belong together between any two lexemes. The
instructions that have been put out find all their operands, and they leave the left operand of
every operator that waits and the operand that has been read last. As many braces wait as are open.
A function waits directly below the brace of its call, and between braces what waits binds tighter
the later it was read, except that powers wait above powers and signs above signs.

Every lexeme keeps the count of the braces. All else is read off the expression that a state stands
for in part, so it needs no further induction on the lexemes. The order is stated for neighbours
first; entries further apart are compared along those between them.
-/

namespace Reckoner

namespace Expression

variable {mode : Mode}

namespace Pending

/-- The binding strength of what waits; a brace and a function have none. -/
def priority? : Pending → Option Priority
  | openBrace | function _ => none
  | sign _ => some .sign
  | operator symbol => some symbol.priority

/-- Whether what waits is an operator, whose left operand is complete. -/
def isOperator : Pending → Bool
  | operator _ => true
  | openBrace | function _ | sign _ => false

/-- Two powers or two signs. -/
inductive Repeats : Pending → Pending → Prop where
  | powers : Repeats (operator .power) (operator .power)
  | signs (upper lower : Sign) : Repeats (sign upper) (sign lower)

/-- Whether the upper of two entries binds tighter than the lower, or as tightly if both are powers
or both are signs. An entry without binding strength is not compared. -/
def Tightens (upper lower : Pending) : Prop :=
  ∀ strong weak, upper.priority? = some strong → lower.priority? = some weak →
    weak ≤ strong ∧ (weak = strong → Repeats upper lower)

/-- Whether an entry may wait directly above another. -/
structure LiesOn (upper lower : Pending) : Prop where
  isCall : ∀ called, lower = .function called → upper = .openBrace
  tightens : Tightens upper lower

variable {upper middle lower : Pending}

theorem Repeats.trans (above : Repeats upper middle) (below : Repeats middle lower) :
    Repeats upper lower := by
  cases above with
  | powers => exact below
  | signs first second =>
      cases below with
      | signs _ third => exact .signs first third

theorem Tightens.trans {priority : Priority} (above : Tightens upper middle)
    (isMiddle : middle.priority? = some priority) (below : Tightens middle lower) :
    Tightens upper lower := by
  intro strong weak isStrong isWeak
  rcases above strong priority isStrong isMiddle with ⟨middleLe, repeatsAbove⟩
  rcases below priority weak isMiddle isWeak with ⟨weakLe, repeatsBelow⟩
  refine ⟨Priority.le_trans weakLe middleLe, ?_⟩
  rintro rfl
  have same : weak = priority := Priority.le_antisymm weakLe middleLe
  exact (repeatsAbove same.symm).trans (repeatsBelow same)

theorem tightens_of_priority?_eq_none (unranked : upper.priority? = none) :
    Tightens upper lower := by
  intro strong weak isStrong _
  rw [unranked] at isStrong
  contradiction

theorem sign_tightens (symbol : Sign) : Tightens (.sign symbol) lower := by
  intro strong weak isStrong isWeak
  cases isStrong
  refine ⟨Priority.le_sign _, ?_⟩
  rintro rfl
  cases lower with
  | openBrace | function _ => contradiction
  | sign below => exact .signs symbol below
  | operator before => cases before <;> contradiction

/-- An operator binds tighter than what awaits it as a part of its operand. -/
theorem operator_tightens {symbol : Operator} (fits : lower.operandPriority ≤ symbol.priority) :
    Tightens (.operator symbol) lower := by
  intro strong weak isStrong isWeak
  cases isStrong
  cases lower with
  | openBrace | function _ => contradiction
  | sign below => exact absurd fits symbol.not_sign_le_priority
  | operator before =>
      cases isWeak
      refine ⟨Priority.le_trans before.priority_le_rightPriority fits, ?_⟩
      intro same
      rcases Operator.eq_power_of_rightPriority_le fits same.symm with ⟨rfl, rfl⟩
      exact .powers

/-- Entries with no brace between them are ordered if neighbours are. -/
theorem tightens_of_isChain {between below : List Pending}
    (isChain : (upper :: (between ++ lower :: below)).IsChain LiesOn)
    (noBrace : .openBrace ∉ between) : Tightens upper lower := by
  induction between generalizing upper with
  | nil => exact (List.isChain_cons_cons.mp isChain).1.tightens
  | cons middle between ih =>
      rw [List.mem_cons, not_or] at noBrace
      rw [List.cons_append, List.isChain_cons_cons] at isChain
      have rest := ih isChain.2 noBrace.2
      cases middle with
      | openBrace => exact absurd rfl noBrace.1
      | function called =>
          rw [isChain.1.isCall called rfl]
          exact tightens_of_priority?_eq_none rfl
      | sign symbol => exact isChain.1.tightens.trans rfl rest
      | operator symbol => exact isChain.1.tightens.trans rfl rest

end Pending

namespace Opens

open Pending

variable {lexemes : List Lexeme} {output : List Instruction} {pending : List Pending}

theorem isChain_cons {upper : Pending} (waits : Opens mode lexemes output pending)
    (isChain : pending.IsChain LiesOn)
    (tightens : ∀ lower below, pending = lower :: below → Tightens upper lower) :
    (upper :: pending).IsChain LiesOn := by
  cases pending with
  | nil => exact .singleton upper
  | cons lower below =>
      refine List.isChain_cons_cons.mpr ⟨⟨?_, tightens lower below rfl⟩, isChain⟩
      rintro called rfl
      exact absurd waits Opens.not_function

/-- Every entry that waits where an operand has to follow may wait on the one below it. -/
theorem isChain (waits : Opens mode lexemes output pending) : pending.IsChain LiesOn := by
  induction waits with
  | start => exact .nil
  | brace before ih =>
      exact before.isChain_cons ih fun _ _ _ => tightens_of_priority?_eq_none rfl
  | call called before ih =>
      have onFunction : LiesOn .openBrace (.function called) :=
        ⟨fun _ _ => rfl, tightens_of_priority?_eq_none rfl⟩
      have isChain : (.function called :: _).IsChain LiesOn :=
        before.isChain_cons ih fun _ _ _ => tightens_of_priority?_eq_none rfl
      exact List.isChain_cons_cons.mpr ⟨onFunction, isChain⟩
  | sign _ before ih => exact before.isChain_cons ih fun _ _ _ => sign_tightens _
  | operator symbol before fits _ ih =>
      refine before.isChain_cons ih ?_
      rintro lower below rfl
      exact operator_tightens fits

/-- Where an operand has to follow, the left operands of the operators that wait have been put
out. -/
theorem heightAfter?_output (waits : Opens mode lexemes output pending) :
    heightAfter? output 0 = some (pending.countP isOperator) := by
  induction waits with
  | start => rfl
  | brace _ ih => simpa [isOperator] using ih
  | call _ _ ih => simpa [isOperator] using ih
  | sign _ _ ih => simpa [isOperator] using ih
  | operator symbol _ _ _ ih =>
      simp [heightAfter?_append, ih, heightAfter?_program, List.countP_cons, isOperator]

end Opens

namespace Conversion

/-- The number of operands that are complete and that nothing has been applied to yet: the left one
of every operator that waits, and the one that has been read last. -/
def completeOperands (state : Conversion) : Nat :=
  state.pending.countP Pending.isOperator + if state.expectsOperand then 0 else 1

/-- How what has been put out and what waits belong together behind the given lexemes. -/
structure IsOrderly (before : List Lexeme) (state : Conversion) : Prop where
  /-- The instructions put out find their operands and leave those that are complete, whatever the
  values are. -/
  height : heightAfter? state.output.toList 0 = some state.completeOperands
  /-- No instruction that is carried out lacks an operand. -/
  hasOperands : ∀ unknown? done instruction following stack,
    state.output.toList = done ++ instruction :: following →
      stackAfter unknown? done [] = .ok stack →
        instruction.execute unknown? stack ≠ .error .invalidSyntax
  /-- Carrying all of them out leaves one value for each complete operand. -/
  leavesOperands : ∀ unknown? stack, stackAfter unknown? state.output.toList [] = .ok stack →
    stack.length = state.completeOperands
  openBraces : (state.pending.count .openBrace : Int) = depth before
  /-- A function waits directly below a brace, unless it has been read just now. -/
  functions : ∀ above called below, state.pending = above ++ .function called :: below →
    above.getLast? = some .openBrace ∨ above = [] ∧ before.getLast? = some (.function called)
  /-- Entries with no brace between them bind tighter from the bottom to the top. -/
  tightens : ∀ above upper between lower below,
    state.pending = above ++ upper :: (between ++ lower :: below) → .openBrace ∉ between →
      Pending.Tightens upper lower

end Conversion

namespace Reaches

variable {lexemes : List Lexeme} {next? : Option Lexeme} {state : Conversion}

theorem heightAfter?_output (reaches : Reaches mode lexemes next? state) :
    heightAfter? state.output.toList 0 = some state.completeOperands := by
  cases reaches with
  | opens expects waits =>
      simpa [Conversion.completeOperands, expects] using waits.heightAfter?_output
  | called expects top waits =>
      simpa [Conversion.completeOperands, expects, top, Pending.isOperator] using
        waits.heightAfter?_output
  | completes complete parts =>
      rcases parts.parts with ⟨earlier, operand, earlierOutput, tree, waits, -, -, outputEq⟩
      simp [Conversion.completeOperands, complete, outputEq, heightAfter?_append,
        waits.heightAfter?_output, heightAfter?_program]

theorem isChain (reaches : Reaches mode lexemes next? state) :
    state.pending.IsChain Pending.LiesOn := by
  cases reaches with
  | opens _ waits => exact waits.isChain
  | called _ top waits =>
      rw [top]
      exact waits.isChain_cons waits.isChain fun _ _ _ =>
        Pending.tightens_of_priority?_eq_none rfl
  | completes _ parts =>
      rcases parts.parts with ⟨_, _, _, _, waits, -⟩
      exact waits.isChain

/-- A function waits on top only where it is the lexeme that has been read last. -/
theorem getLast?_of_function {called : Function} {below : List Pending}
    (reaches : Reaches mode lexemes next? state) (top : state.pending = .function called :: below) :
    lexemes.getLast? = some (.function called) := by
  cases reaches with
  | opens _ waits =>
      rw [top] at waits
      exact absurd waits Opens.not_function
  | called _ readLast _ =>
      cases top.symm.trans readLast
      exact List.getLast?_concat
  | completes _ parts =>
      rcases parts.parts with ⟨_, _, _, _, waits, -⟩
      rw [top] at waits
      exact absurd waits Opens.not_function

end Reaches

theorem Visits.follows {lexemes : List Lexeme} {next? : Option Lexeme} {state : Conversion}
    (visits : Visits mode lexemes next? state) : state.Follows lexemes := by
  induction visits with
  | start => exact Conversion.start_follows
  | step _ steps ih => exact ih.step (.of_step steps)

/-- Between any two lexemes, what has been put out leaves the operands of what waits, as many braces
wait as are open, every function that has not been read just now waits below its brace, and between
braces what waits binds tighter from the bottom to the top, where only powers and signs repeat. -/
theorem conversion_stays_orderly {before : List Lexeme} {next? : Option Lexeme} {state : Conversion}
    (visits : Visits mode before next? state) : state.IsOrderly before := by
  have reaches := visits.reaches
  have height := reaches.heightAfter?_output
  have isChain := reaches.isChain
  refine ⟨height, ?_, ?_, visits.follows.openBraces, ?_, ?_⟩
  · intro unknown? done instruction following stack outputEq runs
    rw [outputEq] at height
    exact execute_ne_of_heightAfter? height runs
  · intro unknown? stack runs
    exact length_of_heightAfter? height runs
  · intro above called below pendingEq
    rcases List.eq_nil_or_concat' above with rfl | ⟨above, upper, rfl⟩
    · exact .inr ⟨rfl, reaches.getLast?_of_function pendingEq⟩
    · rw [pendingEq, List.append_assoc, List.singleton_append] at isChain
      have lies := (List.isChain_cons_cons.mp isChain.right_of_append).1
      rw [lies.isCall called rfl]
      exact .inl List.getLast?_concat
  · intro above upper between lower below pendingEq noBrace
    rw [pendingEq] at isChain
    exact Pending.tightens_of_isChain isChain.right_of_append noBrace

/-- In front of the second brace of `sin(x^x^-cos(`, a sign waits on two powers, the function just
read waits on the sign, and the function of the outer call waits below its brace. -/
theorem conversion_stays_orderly_inside_call :
    ∃ state,
      Visits .equation [.function .sin, .openBrace, .unknown, .operator .power, .unknown,
        .operator .power, .operator .subtract, .function .cos] (some .openBrace) state ∧
      state.output = #[.unknown, .unknown] ∧
      state.pending = [.function .cos, .sign .minus, .operator .power, .operator .power, .openBrace,
        .function .sin] ∧
      state.IsOrderly [.function .sin, .openBrace, .unknown, .operator .power, .unknown,
        .operator .power, .operator .subtract, .function .cos] := by
  have opened : Visits .equation ([.function .sin] ++ [.openBrace]) (some .unknown) _ :=
    .step (.step .start rfl) rfl
  have raised : Visits .equation
      ([.function .sin, .openBrace] ++ [.unknown] ++ [.operator .power] ++ [.unknown] ++
        [.operator .power]) (some (.operator .subtract)) _ :=
    .step (.step (.step (.step opened rfl) rfl) rfl) rfl
  have called : Visits .equation
      ([.function .sin, .openBrace, .unknown, .operator .power, .unknown, .operator .power] ++
        [.operator .subtract] ++ [.function .cos]) (some .openBrace) _ :=
    .step (.step raised rfl) rfl
  exact ⟨_, called, rfl, rfl, conversion_stays_orderly called⟩

end Expression

end Reckoner
