import Reckoner.Decimal.Fixed
import Reckoner.Expression.Conversion

/-!
# Values of texts

The value of an arithmetic text, the value of an equation at a point, and the values of an equation
at evenly spaced points.

A value bound to the unknown is first rounded to ten decimal places, so the result depends only on
what a reader of the value could have typed. A fault of one point of a tabulation is recorded in its
place; a text that is no equation has no tabulation at all.
-/

namespace Reckoner

namespace Expression

/-- The decimal places that a value of the unknown keeps. -/
def unknownPlaces : Nat := 10

/-- The value that the unknown takes when it is bound to a float. -/
def roundUnknown (value : Float) : Float := Decimal.roundToPlaces unknownPlaces value

/-- The value of an arithmetic text. -/
def evaluateText (text : List Char) : Except Fault Float :=
  (parse .expression text).bind evaluate

/-- The equation that a text denotes, which refers to the unknown at least once. -/
def parseEquation (text : List Char) : Except Fault Expression :=
  (parse .equation text).bind fun expression =>
    if expression.hasUnknown then .ok expression else .error .invalidEquation

/-- The value of an expression where the unknown is bound to a float. -/
def evaluateBound (expression : Expression) (value : Float) : Except Fault Float :=
  expression.evaluateAt (roundUnknown value)

/-- The value of an equation at a point. -/
def evaluateEquation (text : List Char) (value : Float) : Except Fault Float :=
  (parseEquation text).bind fun expression => expression.evaluateBound value

/-- One point of a tabulation. -/
structure Point where
  position : Float
  value : Except Fault Float

/-- The bytes that one point takes. -/
def pointBytes : Nat := 24

/-- Whether a list of that many points can be addressed at all. -/
def isAddressable (points : Nat) : Bool :=
  decide (points < Nat.pow 2 64 ∧ pointBytes * points ≤ Nat.pow 2 63 - 1)

/-- The position of each of `intervals + 1` evenly spaced points; the last is `last` itself. -/
def position (first last : Float) (intervals index : Nat) : Float :=
  if index = intervals then last
  else first + (last - first) / Float.ofNat intervals * Float.ofNat index

/-- The values of an equation at the ends of `steps` intervals of equal width, at least one. -/
def tabulate (text : List Char) (first last : Float) (steps : Nat) : Except Fault (List Point) :=
  (parseEquation text).bind fun expression =>
    let intervals := max steps 1
    if isAddressable (intervals + 1) then
      .ok ((List.range (intervals + 1)).map fun index =>
        let place := position first last intervals index
        ⟨place, expression.evaluateBound place⟩)
    else .error .allocationFailure

end Expression

end Reckoner
