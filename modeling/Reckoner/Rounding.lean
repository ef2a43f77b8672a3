/-!
# Rounding a quotient of natural numbers

Every exact conversion of this library, from a decimal text to a float and back, rounds one quotient
of natural numbers. Ties go to the even neighbour here; a caller that wants another rule for ties
asks for the neighbours themselves.
-/

namespace Reckoner

namespace Rounding

/-- The integer nearest to `numerator / denominator`; of two equally near ones, the even one. -/
def nearestEven (numerator denominator : Nat) : Nat :=
  let floor := numerator / denominator
  let twiceRest := 2 * (numerator % denominator)
  if twiceRest < denominator then floor
  else if denominator < twiceRest then floor + 1
  else if floor % 2 = 0 then floor
  else floor + 1

end Rounding

end Reckoner
