/-!
# Signs

The sign that stands before a number or an operand.
-/

namespace Reckoner

/-- A sign before an operand. -/
inductive Sign where
  | plus
  | minus
  deriving DecidableEq, Repr

namespace Sign

/-- The number that a signed operand denotes. -/
def apply : Sign → Float → Float
  | plus, value => value
  | minus, value => -value

end Sign

end Reckoner
