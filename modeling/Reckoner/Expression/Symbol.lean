import Reckoner.Binary64
import Reckoner.Sign

/-!
# Operators and functions

The symbols that stand between and before the operands of an expression, with their names, their
binding strength and the number each of them computes.
-/

namespace Reckoner

namespace Expression

/-- How tightly a symbol binds its operands, weakest first. -/
inductive Priority where
  | additive
  | multiplicative
  | power
  | sign
  deriving DecidableEq, Repr

namespace Priority

/-- The place of a priority in the order of binding strength. -/
def rank : Priority → Nat
  | additive => 0
  | multiplicative => 1
  | power => 2
  | sign => 3

instance : LE Priority := ⟨fun weaker stronger => weaker.rank ≤ stronger.rank⟩

instance : LT Priority := ⟨fun weaker stronger => weaker.rank < stronger.rank⟩

instance (weaker stronger : Priority) : Decidable (weaker ≤ stronger) :=
  inferInstanceAs (Decidable (weaker.rank ≤ stronger.rank))

instance (weaker stronger : Priority) : Decidable (weaker < stronger) :=
  inferInstanceAs (Decidable (weaker.rank < stronger.rank))

end Priority

/-- An operator between two operands. -/
inductive Operator where
  | add
  | subtract
  | multiply
  | divide
  | modulo
  | power
  deriving DecidableEq, Repr

namespace Operator

/-- All operators. -/
def all : List Operator := [add, subtract, multiply, divide, modulo, power]

/-- The written form of an operator. -/
def text : Operator → List Char
  | add => ['+']
  | subtract => ['-']
  | multiply => ['*']
  | divide => ['/']
  | modulo => ['m', 'o', 'd']
  | power => ['^']

/-- The binding strength of an operator. -/
def priority : Operator → Priority
  | add | subtract => .additive
  | multiply | divide | modulo => .multiplicative
  | power => .power

/-- Whether a chain of the operator groups from the right. -/
def isRightAssociative : Operator → Bool
  | power => true
  | _ => false

/-- The sign that has the same written form, if there is one. -/
def sign? : Operator → Option Sign
  | add => some .plus
  | subtract => some .minus
  | _ => none

/-- The number an operator computes; `modulo` is the remainder of the truncated division. -/
def apply : Operator → Float → Float → Float
  | add, left, right => left + right
  | subtract, left, right => left - right
  | multiply, left, right => left * right
  | divide, left, right => left / right
  | modulo, left, right => Binary64.remainder left right
  | power, left, right => Float.pow left right

end Operator

/-- A function of one operand. -/
inductive Function where
  | sqrt
  | sin
  | cos
  | tan
  | asin
  | acos
  | atan
  /-- The natural logarithm. -/
  | ln
  /-- The decimal logarithm. -/
  | log
  deriving DecidableEq, Repr

namespace Function

/-- All functions. -/
def all : List Function := [sqrt, sin, cos, tan, asin, acos, atan, ln, log]

/-- The written name of a function. -/
def name : Function → List Char
  | sqrt => ['s', 'q', 'r', 't']
  | sin => ['s', 'i', 'n']
  | cos => ['c', 'o', 's']
  | tan => ['t', 'a', 'n']
  | asin => ['a', 's', 'i', 'n']
  | acos => ['a', 'c', 'o', 's']
  | atan => ['a', 't', 'a', 'n']
  | ln => ['l', 'n']
  | log => ['l', 'o', 'g']

/-- The function of a written name. -/
def ofName? (name : List Char) : Option Function :=
  all.find? fun function => function.name == name

/-- The number a function computes. -/
def apply : Function → Float → Float
  | sqrt, value => value.sqrt
  | sin, value => value.sin
  | cos, value => value.cos
  | tan, value => value.tan
  | asin, value => value.asin
  | acos, value => value.acos
  | atan, value => value.atan
  | ln, value => value.log
  | log, value => value.log10

end Function

end Expression

end Reckoner
