import Reckoner.Expression.Conversion
import Reckoner.Proofs.Expression.Tree

/-!
# The grammar of expressions

Two descriptions of the lexemes that form an expression. The flat one says which sequences of
lexemes are expressions and nothing about how they group: operands with operators between them. The
layered one also says which tree a sequence stands for: an operand of an operator has a least
binding strength, so that signs bind tighter than powers, powers group to the right, and the other
operators group to the left.

Every sequence of the flat grammar has a tree, and only those have one. That it has no other tree is
shown where the trees are compared with programs.
-/

namespace Reckoner

namespace Expression

/-- What a sequence of lexemes can be in the flat grammar. -/
inductive Category where
  | expression
  | unit
  | atom

/-- The flat grammar: an expression is a sequence of units with operators between them, a unit is an
atom behind any number of signs, and an atom is a number, the unknown of an equation, an expression
in braces or a function of one. -/
inductive Derives (mode : Mode) : Category → List Lexeme → Prop where
  | number (numeral : Numeral) : Derives mode .atom [.number numeral]
  | unknown (isEquation : mode = .equation) : Derives mode .atom [.unknown]
  | braces {lexemes : List Lexeme} (inner : Derives mode .expression lexemes) :
      Derives mode .atom (.openBrace :: lexemes ++ [.closeBrace])
  | call {lexemes : List Lexeme} (called : Function) (inner : Derives mode .expression lexemes) :
      Derives mode .atom (.function called :: .openBrace :: lexemes ++ [.closeBrace])
  | atom {lexemes : List Lexeme} (inner : Derives mode .atom lexemes) : Derives mode .unit lexemes
  | sign {lexemes : List Lexeme} {symbol : Operator} {sign : Sign}
    (isSign : symbol.sign? = some sign)
      (inner : Derives mode .unit lexemes) : Derives mode .unit (.operator symbol :: lexemes)
  | unit {lexemes : List Lexeme} (inner : Derives mode .unit lexemes) :
      Derives mode .expression lexemes
  | operation {first second : List Lexeme} (symbol : Operator)
    (left : Derives mode .expression first)
      (right : Derives mode .unit second) :
      Derives mode .expression (first ++ .operator symbol :: second)

namespace Operator

/-- The least binding strength that the left operand of an operator may have outside braces. -/
def leftPriority : Operator → Priority
  | add | subtract => .additive
  | multiply | divide | modulo => .multiplicative
  | power => .sign

/-- The least binding strength that the right operand of an operator may have outside braces. -/
def rightPriority : Operator → Priority
  | add | subtract => .multiplicative
  | multiply | divide | modulo => .power
  | power => .power

end Operator

/-- The layered grammar: which tree a sequence of lexemes stands for if everything outside braces
binds at least as tightly as a given priority. -/
inductive Reads (mode : Mode) : Priority → List Lexeme → Tree → Prop where
  | number (numeral : Numeral) : Reads mode .sign [.number numeral] (.number numeral.value)
  | unknown (isEquation : mode = .equation) : Reads mode .sign [.unknown] .unknown
  | braces {lexemes : List Lexeme} {tree : Tree} (inner : Reads mode .additive lexemes tree) :
      Reads mode .sign (.openBrace :: lexemes ++ [.closeBrace]) tree
  | call {lexemes : List Lexeme} {tree : Tree} (called : Function)
      (inner : Reads mode .additive lexemes tree) :
      Reads mode .sign (.function called :: .openBrace :: lexemes ++ [.closeBrace])
        (.function called tree)
  | sign {lexemes : List Lexeme} {tree : Tree} {symbol : Operator} {sign : Sign}
      (isSign : symbol.sign? = some sign) (inner : Reads mode .sign lexemes tree) :
      Reads mode .sign (.operator symbol :: lexemes) (.sign sign tree)
  | operation {first second : List Lexeme} {leftTree rightTree : Tree} (symbol : Operator)
      (left : Reads mode symbol.leftPriority first leftTree)
      (right : Reads mode symbol.rightPriority second rightTree) :
      Reads mode symbol.priority (first ++ .operator symbol :: second)
        (.operator symbol leftTree rightTree)
  | weaken {lexemes : List Lexeme} {tree : Tree} {weaker stronger : Priority}
      (isWeaker : weaker ≤ stronger) (inner : Reads mode stronger lexemes tree) :
      Reads mode weaker lexemes tree

namespace Priority

theorem additive_le (priority : Priority) : additive ≤ priority := by
  cases priority <;> decide

theorem le_sign (priority : Priority) : priority ≤ sign := by
  cases priority <;> decide

theorem le_trans {first second third : Priority} (lower : first ≤ second) (upper : second ≤ third) :
    first ≤ third :=
  Nat.le_trans (show first.rank ≤ second.rank from lower) (show second.rank ≤ third.rank from upper)

theorem le_antisymm {first second : Priority} (lower : first ≤ second) (upper : second ≤ first) :
    first = second := by
  cases first <;> cases second <;> revert lower upper <;> decide

end Priority

namespace Operator

theorem leftPriority_le_of_lt {symbol : Operator} {priority : Priority}
    (tighter : ¬priority ≤ symbol.priority) : symbol.leftPriority ≤ priority := by
  cases symbol <;> cases priority <;> revert tighter <;> decide

/-- An operator that does not belong to the right operand of another takes that other as its left
operand. -/
theorem leftPriority_le_priority {before symbol : Operator}
    (notRight : ¬before.rightPriority ≤ symbol.priority) :
    symbol.leftPriority ≤ before.priority := by
  cases before <;> cases symbol <;> revert notRight <;> decide

theorem priority_le_leftPriority (symbol : Operator) : symbol.priority ≤ symbol.leftPriority := by
  cases symbol <;> decide

theorem priority_le_rightPriority (symbol : Operator) : symbol.priority ≤ symbol.rightPriority := by
  cases symbol <;> decide

theorem not_sign_le_priority (symbol : Operator) : ¬Priority.sign ≤ symbol.priority := by
  cases symbol <;> decide

/-- Only a power belongs to the right operand of an operator of its own binding strength. -/
theorem eq_power_of_rightPriority_le {before symbol : Operator}
    (isRight : before.rightPriority ≤ symbol.priority) (same : symbol.priority = before.priority) :
    before = .power ∧ symbol = .power := by
  cases before <;> cases symbol <;> revert isRight same <;> decide

end Operator

variable {mode : Mode}

namespace Derives

theorem append_operation {first second : List Lexeme} (symbol : Operator)
    (left : Derives mode .expression first) (right : Derives mode .expression second) :
    Derives mode .expression (first ++ .operator symbol :: second) := by
  generalize isExpression : Category.expression = category at right
  induction right with
  | unit inner _ => exact .operation symbol left inner
  | operation next _ rightUnit ihLeft _ =>
      have grown := ihLeft rfl
      simpa only [List.append_assoc, List.cons_append] using Derives.operation next grown rightUnit
  | _ => contradiction

end Derives

namespace Reads

/-- Lexemes that stand for a tree are an expression of the flat grammar, and a unit of it if nothing
outside braces is weaker than a sign. -/
theorem derives {priority : Priority} {lexemes : List Lexeme} {tree : Tree}
    (reads : Reads mode priority lexemes tree) :
    Derives mode .expression lexemes ∧ (priority = .sign → Derives mode .unit lexemes) := by
  induction reads with
  | number numeral =>
      have unit : Derives mode .unit [.number numeral] := .atom (.number numeral)
      exact ⟨.unit unit, fun _ => unit⟩
  | unknown isEquation =>
      have unit := Derives.atom (.unknown isEquation)
      exact ⟨.unit unit, fun _ => unit⟩
  | braces _ ih =>
      have unit := Derives.atom (.braces ih.1)
      exact ⟨.unit unit, fun _ => unit⟩
  | call called _ ih =>
      have unit := Derives.atom (.call called ih.1)
      exact ⟨.unit unit, fun _ => unit⟩
  | sign isSign _ ih =>
      have unit := Derives.sign isSign (ih.2 rfl)
      exact ⟨.unit unit, fun _ => unit⟩
  | operation symbol _ _ ihLeft ihRight =>
      refine ⟨ihLeft.1.append_operation symbol ihRight.1, ?_⟩
      intro isSign
      exact absurd (by rw [isSign]; decide) symbol.not_sign_le_priority
  | weaken isWeaker _ ih =>
      refine ⟨ih.1, ?_⟩
      intro isSign
      subst isSign
      rename_i stronger _
      cases stronger with
      | sign => exact ih.2 rfl
      | _ => exact absurd isWeaker (by decide)

/-- A further operand takes its place in the tree of what stands before it: below the operators that
bind no tighter than the operator in front of it, and above all others. -/
theorem append_operation {priority : Priority} {lexemes unit : List Lexeme} {tree unitTree : Tree}
    (reads : Reads mode priority lexemes tree) (symbol : Operator)
    (notWeaker : priority ≤ symbol.priority) (unitReads : Reads mode .sign unit unitTree) :
    ∃ grown, Reads mode priority (lexemes ++ .operator symbol :: unit) grown := by
  have right : Reads mode symbol.rightPriority unit unitTree :=
    .weaken (Priority.le_sign _) unitReads
  induction reads with
  | @operation first second leftTree rightTree before left inner _ ihRight =>
      by_cases reaches : before.rightPriority ≤ symbol.priority
      · rcases ihRight reaches with ⟨grown, grownReads⟩
        refine ⟨.operator before leftTree grown, ?_⟩
        simpa only [List.append_assoc, List.cons_append] using
          Reads.operation before left grownReads
      · have wholeLeft : Reads mode symbol.leftPriority _ _ :=
          .weaken (Operator.leftPriority_le_priority reaches) (.operation before left inner)
        exact ⟨_, .weaken notWeaker (.operation symbol wholeLeft right)⟩
  | @weaken inner innerTree weaker stronger isWeaker innerReads ih =>
      by_cases reaches : stronger ≤ symbol.priority
      · rcases ih reaches with ⟨grown, grownReads⟩
        exact ⟨grown, .weaken isWeaker grownReads⟩
      · have left : Reads mode symbol.leftPriority inner innerTree :=
          .weaken (Operator.leftPriority_le_of_lt reaches) innerReads
        exact ⟨_, .weaken notWeaker (.operation symbol left right)⟩
  | _ => exact absurd notWeaker symbol.not_sign_le_priority

/-- The least binding strength of a part of the flat grammar. -/
def priorityOf : Category → Priority
  | .expression => .additive
  | .unit | .atom => .sign

/-- Every sequence of the flat grammar has a tree. -/
theorem exists_of_derives {category : Category} {lexemes : List Lexeme}
    (derivation : Derives mode category lexemes) :
    ∃ tree, Reads mode (priorityOf category) lexemes tree := by
  induction derivation with
  | number numeral => exact ⟨_, .number numeral⟩
  | unknown isEquation => exact ⟨_, .unknown isEquation⟩
  | braces _ ih =>
      rcases ih with ⟨tree, reads⟩
      exact ⟨tree, .braces reads⟩
  | call called _ ih =>
      rcases ih with ⟨tree, reads⟩
      exact ⟨_, .call called reads⟩
  | atom _ ih => exact ih
  | sign isSign _ ih =>
      rcases ih with ⟨tree, reads⟩
      exact ⟨_, .sign isSign reads⟩
  | unit _ ih =>
      rcases ih with ⟨tree, reads⟩
      exact ⟨tree, .weaken (Priority.additive_le _) reads⟩
  | operation symbol _ _ ihLeft ihRight =>
      rcases ihLeft with ⟨leftTree, leftReads⟩
      rcases ihRight with ⟨rightTree, rightReads⟩
      exact leftReads.append_operation symbol (Priority.additive_le _) rightReads

end Reads

end Expression

end Reckoner
