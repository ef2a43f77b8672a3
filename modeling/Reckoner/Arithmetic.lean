import Reckoner.Binary64

/-!
# The numbers that schedules compute with

Schedules, simulations and taxes use a handful of number operations. They are gathered in a class,
so that the same definitions run on floats and can be read as statements about any other numbers,
such as exact rationals. No law is assumed of the operations: what follows for every instance holds
bit for bit for floats.

Comparisons are tests with a Boolean answer, since a float that is not a number compares with
nothing.
-/

namespace Reckoner

/-- The number operations of schedules. -/
class Arithmetic (α : Type) extends Add α, Sub α, Mul α, Div α, Neg α, NatCast α where
  lt : α → α → Bool
  le : α → α → Bool
  /-- Whether a value is no number at all. -/
  isNaN : α → Bool
  /-- The nearest integer, halves away from zero. -/
  round : α → α
  power : α → Nat → α

namespace Arithmetic

variable {α : Type} [Arithmetic α]

/-- Equality as a test of both orders. -/
def beq (first second : α) : Bool := le first second && le second first

/-- A value that is positive in the sense that it neither is unordered nor reaches down to zero. -/
def isPositive (value : α) : Bool := lt (Nat.cast 0) value

/-- The nearest amount in whole cents, halves away from zero. -/
def roundCents (value : α) : α := round (value * Nat.cast 100) / Nat.cast 100

/-- Adds values from left to right, beginning with zero. -/
def sum (values : List α) : α := values.foldl (· + ·) (Nat.cast 0)

theorem sum_append_singleton (values : List α) (value : α) :
    sum (values ++ [value]) = sum values + value := by
  rw [sum, List.foldl_append]
  rfl

end Arithmetic

/-- Floats; a power of one is one without any further computation. -/
instance : Arithmetic Float where
  natCast := Float.ofNat
  lt first second := decide (first < second)
  le first second := decide (first ≤ second)
  isNaN := Float.isNaN
  round := Float.round
  power base exponent := if base == 1.0 then 1.0 else Float.pow base (Float.ofNat exponent)

end Reckoner
