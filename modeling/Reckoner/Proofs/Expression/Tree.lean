import Reckoner.Expression.Program

/-!
# Expression trees

The tree that a postfix program stands for. A program is the postorder of its tree, and it has no
other tree: reading a program from left to right on a stack of trees builds the tree up again.
-/

namespace Reckoner

namespace Expression

/-- An expression without its braces: what every operator, function and sign is applied to. -/
inductive Tree where
  | number (value : Float)
  | unknown
  | sign (symbol : Sign) (operand : Tree)
  | function (called : Function) (operand : Tree)
  | operator (symbol : Operator) (left right : Tree)

namespace Tree

/-- The postorder of a tree. -/
def program : Tree → List Instruction
  | number value => [.number value]
  | unknown => [.unknown]
  | sign symbol operand => operand.program ++ [.sign symbol]
  | function called operand => operand.program ++ [.function called]
  | operator symbol left right => left.program ++ right.program ++ [.operator symbol]

/-- The trees that a program leaves on a stack of trees, the latest first. -/
def build : List Instruction → List Tree → List Tree
  | [], trees => trees
  | .number value :: program, trees => build program (number value :: trees)
  | .unknown :: program, trees => build program (unknown :: trees)
  | .sign symbol :: program, operand :: trees => build program (sign symbol operand :: trees)
  | .function called :: program, operand :: trees =>
      build program (function called operand :: trees)
  | .operator symbol :: program, right :: left :: trees =>
      build program (operator symbol left right :: trees)
  | _ :: program, trees => build program trees

/-- The postorder of a tree puts that tree on the stack, whatever follows. -/
theorem build_program_append (tree : Tree) (following : List Instruction) (trees : List Tree) :
    build (tree.program ++ following) trees = build following (tree :: trees) := by
  induction tree generalizing following trees with
  | number value => rfl
  | unknown => rfl
  | sign symbol operand ih =>
      simp only [program, List.append_assoc, ih]
      rfl
  | function called operand ih =>
      simp only [program, List.append_assoc, ih]
      rfl
  | operator symbol left right ihLeft ihRight =>
      simp only [program, List.append_assoc, ihLeft, ihRight]
      rfl

/-- Two trees with the same postorder are the same tree. -/
theorem program_injective {first second : Tree} (same : first.program = second.program) :
    first = second := by
  have firstBuilt := build_program_append first [] []
  have secondBuilt := build_program_append second [] []
  rw [same, secondBuilt] at firstBuilt
  simpa [build] using firstBuilt.symm

end Tree

end Expression

end Reckoner
