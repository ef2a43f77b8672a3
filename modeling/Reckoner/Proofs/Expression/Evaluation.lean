import Reckoner.Proofs.Expression.Acceptance

/-!
# The stack machine computes the tree

Carrying out the postorder of a tree puts the value of the tree on the stack, whatever is on the
stack and whatever instructions follow. A value that is not finite ends the evaluation of the tree
and the run of the program alike. The number of values on the stack depends on the instructions
only, so no instruction of an accepted text ever lacks an operand, and exactly one value is left.
-/

namespace Reckoner

namespace Expression

namespace Tree

/-- The number that a tree stands for if every operation is carried out as it is. -/
def value (unknown : Float) : Tree → Float
  | number literal => literal
  | .unknown => unknown
  | sign symbol operand => symbol.apply (operand.value unknown)
  | function called operand => called.apply (operand.value unknown)
  | operator symbol left right => symbol.apply (left.value unknown) (right.value unknown)

/-- All subtrees of a tree, operands before what is applied to them. -/
def nodes : Tree → List Tree
  | number literal => [number literal]
  | .unknown => [.unknown]
  | sign symbol operand => operand.nodes ++ [sign symbol operand]
  | function called operand => operand.nodes ++ [function called operand]
  | operator symbol left right => left.nodes ++ right.nodes ++ [operator symbol left right]

/-- Whether the number of every subtree is finite. -/
def isFinite (unknown : Float) (tree : Tree) : Bool :=
  tree.nodes.all fun node => (node.value unknown).isFinite

/-- A value that may be used further. -/
def finite (value : Float) : Except Fault Float :=
  if value.isFinite then .ok value else .error .invalidExpression

/-- The recursive evaluation of a tree, where every value on the way has to be finite. -/
def evaluate (unknown : Float) : Tree → Except Fault Float
  | number literal => finite literal
  | .unknown => finite unknown
  | sign symbol operand => (operand.evaluate unknown).bind fun value => finite (symbol.apply value)
  | function called operand =>
      (operand.evaluate unknown).bind fun value => finite (called.apply value)
  | operator symbol left right =>
      (left.evaluate unknown).bind fun leftValue =>
        (right.evaluate unknown).bind fun rightValue => finite (symbol.apply leftValue rightValue)

theorem isFinite_sign (unknown : Float) (symbol : Sign) (operand : Tree) :
    (sign symbol operand).isFinite unknown =
      (operand.isFinite unknown && (symbol.apply (operand.value unknown)).isFinite) := by
  simp [isFinite, nodes, value]

theorem isFinite_function (unknown : Float) (called : Function) (operand : Tree) :
    (function called operand).isFinite unknown =
      (operand.isFinite unknown && (called.apply (operand.value unknown)).isFinite) := by
  simp [isFinite, nodes, value]

theorem isFinite_operator (unknown : Float) (symbol : Operator) (left right : Tree) :
    (operator symbol left right).isFinite unknown =
      (left.isFinite unknown && right.isFinite unknown &&
        (symbol.apply (left.value unknown) (right.value unknown)).isFinite) := by
  simp [isFinite, nodes, value, Bool.and_assoc]

/-- A tree evaluates to the number of its root if the numbers of all its subtrees are finite, and to
a fault otherwise. -/
theorem evaluate_eq (unknown : Float) (tree : Tree) :
    tree.evaluate unknown =
      if tree.isFinite unknown then .ok (tree.value unknown) else .error .invalidExpression := by
  induction tree with
  | number literal => simp [evaluate, finite, isFinite, nodes, value]
  | unknown => simp [evaluate, finite, isFinite, nodes, value]
  | sign symbol operand ih =>
      rw [evaluate, ih, isFinite_sign]
      by_cases operandFinite : operand.isFinite unknown = true
      · rw [if_pos operandFinite, operandFinite, Bool.true_and]
        rfl
      · rw [if_neg operandFinite, Bool.eq_false_iff.mpr operandFinite, Bool.false_and]
        rfl
  | function called operand ih =>
      rw [evaluate, ih, isFinite_function]
      by_cases operandFinite : operand.isFinite unknown = true
      · rw [if_pos operandFinite, operandFinite, Bool.true_and]
        rfl
      · rw [if_neg operandFinite, Bool.eq_false_iff.mpr operandFinite, Bool.false_and]
        rfl
  | operator symbol left right ihLeft ihRight =>
      rw [evaluate, ihLeft, ihRight, isFinite_operator]
      by_cases leftFinite : left.isFinite unknown = true
      · rw [if_pos leftFinite, leftFinite, Bool.true_and]
        by_cases rightFinite : right.isFinite unknown = true
        · rw [if_pos rightFinite, rightFinite, Bool.true_and]
          rfl
        · rw [if_neg rightFinite, Bool.eq_false_iff.mpr rightFinite, Bool.false_and]
          rfl
      · rw [if_neg leftFinite, Bool.eq_false_iff.mpr leftFinite, Bool.false_and, Bool.false_and]
        rfl

/-- Behind an instruction that computes a value, a program goes on as behind that value, if it is
finite. -/
theorem runOn_cons {unknown? : Option Float} {instruction : Instruction} {stack below : List Float}
    {value : Float} (executes : instruction.execute unknown? stack = .ok (value, below))
    (following : List Instruction) :
    runOn unknown? (instruction :: following) stack =
      (finite value).bind fun value => runOn unknown? following (value :: below) := by
  simp only [runOn, executes, finite]
  split <;> rfl

/-- The postorder of a tree puts the value of the tree on the stack, whatever is there and whatever
follows. -/
theorem runOn_program_append {unknown : Float} {unknown? : Option Float} (tree : Tree)
    (bound : Instruction.unknown ∈ tree.program → unknown? = some unknown)
    (following : List Instruction) (stack : List Float) :
    runOn unknown? (tree.program ++ following) stack =
      (tree.evaluate unknown).bind fun value => runOn unknown? following (value :: stack) := by
  induction tree generalizing following stack with
  | number literal => exact runOn_cons rfl following
  | unknown =>
      have isBound := bound (List.mem_singleton.mpr rfl)
      exact runOn_cons (by simp [Instruction.execute, isBound]) following
  | sign symbol operand ih =>
      have operandBound := fun member => bound (List.mem_append_left _ member)
      simp only [program, evaluate, List.append_assoc, ih operandBound]
      cases operand.evaluate unknown with
      | error fault => rfl
      | ok value =>
          have executes : (Instruction.sign symbol).execute unknown? (value :: stack) =
              .ok (symbol.apply value, stack) := rfl
          exact runOn_cons executes following
  | function called operand ih =>
      have operandBound := fun member => bound (List.mem_append_left _ member)
      simp only [program, evaluate, List.append_assoc, ih operandBound]
      cases operand.evaluate unknown with
      | error fault => rfl
      | ok value =>
          have executes : (Instruction.function called).execute unknown? (value :: stack) =
              .ok (called.apply value, stack) := rfl
          exact runOn_cons executes following
  | operator symbol left right ihLeft ihRight =>
      have leftBound := fun member => bound (List.mem_append_left _ (List.mem_append_left _ member))
      have rightBound := fun member =>
        bound (List.mem_append_left _ (List.mem_append_right _ member))
      simp only [program, evaluate, List.append_assoc, ihLeft leftBound, ihRight rightBound]
      cases left.evaluate unknown with
      | error fault => rfl
      | ok leftValue =>
          cases right.evaluate unknown with
          | error fault => rfl
          | ok rightValue =>
              have executes :
                (Instruction.operator symbol).execute unknown? (rightValue :: leftValue :: stack) =
                  .ok (symbol.apply leftValue rightValue, stack) := rfl
              exact runOn_cons executes following

theorem runOn_program {unknown : Float} {unknown? : Option Float} (tree : Tree)
    (bound : Instruction.unknown ∈ tree.program → unknown? = some unknown) :
    runOn unknown? tree.program [] = tree.evaluate unknown := by
  have runs := tree.runOn_program_append bound [] []
  rw [List.append_nil] at runs
  rw [runs]
  cases tree.evaluate unknown <;> rfl

end Tree

/-! ## The height of the stack -/

/-- The number of operands that an instruction takes off the stack. -/
def Instruction.arity : Instruction → Nat
  | number _ | unknown => 0
  | sign _ | function _ => 1
  | operator _ => 2

/-- The height of the stack after a program, or none if an operand is missing on the way. -/
def heightAfter? : List Instruction → Nat → Option Nat
  | [], height => some height
  | instruction :: program, height =>
      if instruction.arity ≤ height then heightAfter? program (height - instruction.arity + 1)
      else none

/-- The stack after a program. -/
def stackAfter (unknown? : Option Float) : List Instruction → List Float → Except Fault (List Float)
  | [], stack => .ok stack
  | instruction :: program, stack =>
      match instruction.execute unknown? stack with
      | .error fault => .error fault
      | .ok (value, below) =>
          if value.isFinite then stackAfter unknown? program (value :: below)
          else .error .invalidExpression

theorem runOn_eq_ok_iff {unknown? : Option Float} {program : List Instruction} {stack : List Float}
    {result : Float} :
    runOn unknown? program stack = .ok result ↔
      stackAfter unknown? program stack = .ok [result] := by
  induction program generalizing stack with
  | nil => rcases stack with _ | ⟨value, _ | ⟨second, rest⟩⟩ <;> simp [runOn, stackAfter]
  | cons instruction program ih =>
      cases executes : instruction.execute unknown? stack with
      | error fault => simp [runOn, stackAfter, executes]
      | ok result =>
          simp only [runOn, stackAfter, executes]
          split
          · exact ih
          · simp

/-- A program finds all its operands on the stack at every place, and it leaves one value. -/
structure WellFormed (program : List Instruction) : Prop where
  hasOperands : ∀ unknown? before instruction after stack,
    program = before ++ instruction :: after → stackAfter unknown? before [] = .ok stack →
      instruction.execute unknown? stack ≠ .error .invalidSyntax
  leavesOne : ∀ unknown? stack,
    stackAfter unknown? program [] = .ok stack → ∃ value, stack = [value]

namespace Instruction

theorem below_of_execute {unknown? : Option Float} {instruction : Instruction}
    {stack below : List Float}
    {value : Float} (executes : instruction.execute unknown? stack = .ok (value, below)) :
    instruction.arity ≤ stack.length ∧ below = stack.drop instruction.arity := by
  cases instruction with
  | number literal =>
      obtain ⟨-, rfl⟩ := Prod.mk.inj (Except.ok.inj executes)
      simp [arity]
  | unknown =>
      cases unknown? with
      | none => contradiction
      | some bound =>
          obtain ⟨-, rfl⟩ := Prod.mk.inj (Except.ok.inj executes)
          simp [arity]
  | sign symbol =>
      rcases stack with _ | ⟨operand, rest⟩
      · contradiction
      · obtain ⟨-, rfl⟩ := Prod.mk.inj (Except.ok.inj executes)
        simp [arity]
  | function called =>
      rcases stack with _ | ⟨operand, rest⟩
      · contradiction
      · obtain ⟨-, rfl⟩ := Prod.mk.inj (Except.ok.inj executes)
        simp [arity]
  | operator symbol =>
      rcases stack with _ | ⟨right, _ | ⟨left, rest⟩⟩
      · contradiction
      · contradiction
      · obtain ⟨-, rfl⟩ := Prod.mk.inj (Except.ok.inj executes)
        simp [arity]

theorem mem_of_execute {unknown? : Option Float} {instruction : Instruction}
    {stack below : List Float}
    {value other : Float} (executes : instruction.execute unknown? stack = .ok (value, below))
    (member : other ∈ below) : other ∈ stack := by
  rw [(below_of_execute executes).2] at member
  exact List.mem_of_mem_drop member

theorem execute_ne_of_arity_le {unknown? : Option Float} {instruction : Instruction}
    {stack : List Float}
    (enough : instruction.arity ≤ stack.length) :
    instruction.execute unknown? stack ≠ .error .invalidSyntax := by
  cases instruction with
  | number literal => simp [execute]
  | unknown => cases unknown? <;> simp [execute]
  | sign symbol => rcases stack with _ | ⟨operand, rest⟩ <;> simp [execute, arity] at enough ⊢
  | function called => rcases stack with _ | ⟨operand, rest⟩ <;> simp [execute, arity] at enough ⊢
  | operator symbol =>
      rcases stack with _ | ⟨right, _ | ⟨left, rest⟩⟩ <;> simp [execute, arity] at enough ⊢

end Instruction

theorem heightAfter?_append (first second : List Instruction) (height : Nat) :
    heightAfter? (first ++ second) height =
      (heightAfter? first height).bind (heightAfter? second) := by
  induction first generalizing height with
  | nil => rfl
  | cons instruction first ih =>
      simp only [List.cons_append, heightAfter?]
      split
      · exact ih _
      · rfl

/-- The postorder of a tree raises the stack by one. -/
theorem heightAfter?_program (tree : Tree) (height : Nat) :
    heightAfter? tree.program height = some (height + 1) := by
  induction tree generalizing height with
  | number literal => rfl
  | unknown => rfl
  | sign symbol operand ih =>
      simp [Tree.program, heightAfter?_append, ih, heightAfter?, Instruction.arity]
  | function called operand ih =>
      simp [Tree.program, heightAfter?_append, ih, heightAfter?, Instruction.arity]
  | operator symbol left right ihLeft ihRight =>
      simp [Tree.program, heightAfter?_append, ihLeft, ihRight, heightAfter?, Instruction.arity]

/-- A stack has the height that its instructions give it. -/
theorem heightAfter?_of_stackAfter {unknown? : Option Float} {program : List Instruction}
    {stack final : List Float} (runs : stackAfter unknown? program stack = .ok final) :
    heightAfter? program stack.length = some final.length := by
  induction program generalizing stack with
  | nil =>
      cases runs
      rfl
  | cons instruction program ih =>
      simp only [stackAfter] at runs
      split at runs
      · contradiction
      · next value below executes =>
        split at runs
        · rcases Instruction.below_of_execute executes with ⟨enough, belowEq⟩
          have rest := ih runs
          rw [List.length_cons, belowEq, List.length_drop] at rest
          simp only [heightAfter?, enough, if_true, rest]
        · contradiction

theorem length_of_heightAfter? {unknown? : Option Float} {program : List Instruction}
    {stack : List Float} {height : Nat} (reached : heightAfter? program 0 = some height)
    (runs : stackAfter unknown? program [] = .ok stack) : stack.length = height := by
  have final := heightAfter?_of_stackAfter runs
  rw [List.length_nil, reached] at final
  exact (Option.some.inj final).symm

theorem execute_ne_of_heightAfter? {unknown? : Option Float} {before after : List Instruction}
    {instruction : Instruction} {stack : List Float} {height : Nat}
    (reached : heightAfter? (before ++ instruction :: after) 0 = some height)
    (runs : stackAfter unknown? before [] = .ok stack) :
    instruction.execute unknown? stack ≠ .error .invalidSyntax := by
  have reachedBefore := heightAfter?_of_stackAfter runs
  rw [List.length_nil] at reachedBefore
  rw [heightAfter?_append, reachedBefore] at reached
  simp only [Option.bind_some, heightAfter?] at reached
  by_cases enough : instruction.arity ≤ stack.length
  · exact Instruction.execute_ne_of_arity_le enough
  · simp [enough] at reached

/-- A program that finds its operands and ends at height one is well formed. -/
theorem wellFormed_of_heightAfter? {program : List Instruction}
    (height : heightAfter? program 0 = some 1) : WellFormed program := by
  refine ⟨?_, ?_⟩
  · rintro unknown? before instruction after stack rfl runs
    exact execute_ne_of_heightAfter? height runs
  · intro unknown? stack runs
    exact List.length_eq_one_iff.mp (length_of_heightAfter? height runs)

theorem isFinite_of_stackAfter {unknown? : Option Float} {program : List Instruction}
    {stack final : List Float} (finite : ∀ value ∈ stack, value.isFinite = true)
    (runs : stackAfter unknown? program stack = .ok final) :
    ∀ value ∈ final, value.isFinite = true := by
  induction program generalizing stack with
  | nil =>
      cases runs
      exact finite
  | cons instruction program ih =>
      simp only [stackAfter] at runs
      split at runs
      · contradiction
      · next value below executes =>
        split at runs
        · next isFinite =>
          refine ih ?_ runs
          intro other member
          rcases List.mem_cons.mp member with rfl | member
          · exact isFinite
          · exact finite other (Instruction.mem_of_execute executes member)
        · contradiction

theorem isFinite_of_runOn {unknown? : Option Float} {program : List Instruction} {result : Float}
    (runs : runOn unknown? program [] = .ok result) : result.isFinite = true :=
  isFinite_of_stackAfter (by simp) (runOn_eq_ok_iff.mp runs) result (List.mem_singleton.mpr rfl)

/-- The value of an accepted text is the value of its tree, also at a value of the unknown; its
program never misses an operand and leaves one value, and every value is finite. -/
theorem evaluate_eq_evaluate_tree {mode : Mode} {text : List Char} {expression : Expression}
    (accepted : parse mode text = .ok expression) :
    WellFormed expression.program ∧
    (∃ tree, Reads mode .additive (Lexeme.readAll text).lexemes tree ∧
      (∀ other, Reads mode .additive (Lexeme.readAll text).lexemes other → other = tree) ∧
      (expression.hasUnknown = false → ∀ unknown, expression.evaluate = tree.evaluate unknown) ∧
      (∀ unknown, expression.evaluateAt unknown = tree.evaluate unknown) ∧
      ∀ unknown, tree.evaluate unknown =
        if tree.isFinite unknown then .ok (tree.value unknown) else .error .invalidExpression) ∧
    (∀ result, expression.evaluate = .ok result → result.isFinite = true) ∧
    ∀ unknown result, expression.evaluateAt unknown = .ok result → result.isFinite = true := by
  rcases exists_tree_of_parse accepted with ⟨tree, reads, program⟩
  have refersTo := hasUnknown_iff_of_parse accepted
  refine ⟨?_, ⟨tree, reads, fun other otherReads => otherReads.tree_unique reads, ?_, ?_, ?_⟩,
    ?_, ?_⟩
  · rw [program]
    exact wellFormed_of_heightAfter? (heightAfter?_program tree 0)
  · intro noUnknown unknown
    have notMember : Instruction.unknown ∉ tree.program := by
      rw [← program, ← refersTo, noUnknown]
      exact Bool.false_ne_true
    rw [evaluate, noUnknown, program]
    exact tree.runOn_program fun member => absurd member notMember
  · intro unknown
    rw [evaluateAt, program]
    exact tree.runOn_program fun _ => rfl
  · exact fun unknown => tree.evaluate_eq unknown
  · intro result evaluates
    simp only [evaluate] at evaluates
    split at evaluates
    · contradiction
    · exact isFinite_of_runOn evaluates
  · intro unknown result evaluates
    exact isFinite_of_runOn evaluates

/-- The remainder in `7 mod 4/2` is taken before the division. -/
theorem evaluate_eq_evaluate_tree_of_remainder :
    parse .expression ['7', ' ', 'm', 'o', 'd', ' ', '4', '/', '2'] =
        .ok ⟨[.number 7.0, .number 4.0, .operator .modulo, .number 2.0, .operator .divide], false⟩ ∧
      WellFormed [.number 7.0, .number 4.0, .operator .modulo, .number 2.0, .operator .divide] ∧
      ∃ tree : Tree, ∀ unknown, tree.evaluate unknown = .ok 1.5 := by
  have accepted : parse .expression ['7', ' ', 'm', 'o', 'd', ' ', '4', '/', '2'] =
      .ok ⟨[.number 7.0, .number 4.0, .operator .modulo, .number 2.0, .operator .divide],
        false⟩ := by
    decide +kernel
  have computes := evaluate_eq_evaluate_tree accepted
  rcases computes.2.1 with ⟨tree, -, -, withoutUnknown, -⟩
  refine ⟨accepted, computes.1, tree, ?_⟩
  intro unknown
  rw [← withoutUnknown rfl unknown]
  decide +kernel

end Expression

end Reckoner
