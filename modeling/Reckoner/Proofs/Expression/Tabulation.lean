import Mathlib.Data.List.Basic
import Reckoner.Expression.Evaluation

/-!
# Tabulations and points

A tabulation reads its text once and then goes from point to point; the value at a single point
reads the text anew. Both come to the same: a text that is no equation has no tabulation, for the
reason for which it has no value anywhere, and each entry of a tabulation is the value, or the
fault, that the equation has at that point. Only the number of points can fail beyond that.
-/

namespace Reckoner

namespace Expression

/-- Whether that many points are too many for a list: they cannot be counted in 64 bits, or their
bytes exceed what one list may take. -/
def IsTooMany (points : Nat) : Prop := Nat.pow 2 64 ≤ points ∨ Nat.pow 2 63 - 1 < 24 * points

variable {text : List Char} {first last : Float} {steps : Nat} {equation : Expression}

theorem isAddressable_iff {points : Nat} : isAddressable points = true ↔ ¬IsTooMany points := by
  unfold isAddressable IsTooMany pointBytes
  rw [decide_eq_true_iff]
  simp only [Nat.pow_eq]
  omega

theorem parseEquation_of_error {fault : Fault} (rejected : parse .equation text = .error fault) :
    parseEquation text = .error fault := by
  simp [parseEquation, rejected, Except.bind]

theorem parseEquation_of_noUnknown (accepted : parse .equation text = .ok equation)
    (noUnknown : equation.hasUnknown = false) : parseEquation text = .error .invalidEquation := by
  simp [parseEquation, accepted, Except.bind, noUnknown]

theorem parseEquation_of_hasUnknown (accepted : parse .equation text = .ok equation)
    (hasUnknown : equation.hasUnknown = true) : parseEquation text = .ok equation := by
  simp [parseEquation, accepted, Except.bind, hasUnknown]

/-- What fails before the first point fails for the whole tabulation. -/
theorem tabulate_of_error {fault : Fault} (fails : parseEquation text = .error fault) :
    tabulate text first last steps = .error fault := by
  simp [tabulate, fails, Except.bind]

/-- The value at a point is that of the equation which the text denotes. -/
theorem evaluateEquation_of_ok (denotes : parseEquation text = .ok equation) (place : Float) :
    evaluateEquation text place = equation.evaluateBound place := by
  simp [evaluateEquation, denotes, Except.bind]

/-- A point of which the value is found by itself. -/
def pointAt (text : List Char) (place : Float) : Point := ⟨place, evaluateEquation text place⟩

theorem tabulate_of_ok (denotes : parseEquation text = .ok equation)
    (fits : ¬IsTooMany (max steps 1 + 1)) :
    tabulate text first last steps =
      .ok ((List.range (max steps 1 + 1)).map fun index =>
        pointAt text (position first last (max steps 1) index)) := by
  rw [← isAddressable_iff] at fits
  simp only [pointAt, evaluateEquation_of_ok denotes]
  rw [tabulate, denotes]
  exact if_pos fits

theorem tabulate_of_isTooMany (denotes : parseEquation text = .ok equation)
    (isTooMany : IsTooMany (max steps 1 + 1)) :
    tabulate text first last steps = .error .allocationFailure := by
  have notAddressable : ¬isAddressable (max steps 1 + 1) = true := by
    rw [isAddressable_iff, not_not]
    exact isTooMany
  rw [tabulate, denotes]
  exact if_neg notAddressable

/-- A tabulation fails with the fault of its text, for a text without unknown, or for too many
points, in this order. Otherwise it has one point more than it has intervals. They lie evenly from
the first place on, the last of them is the last place itself, and at each of them stands what the
equation is there. -/
theorem tabulate_agrees_with_points (text : List Char) (first last : Float) (steps : Nat) :
    (∀ fault, parse .equation text = .error fault →
      tabulate text first last steps = .error fault) ∧
    (∀ equation, parse .equation text = .ok equation → equation.hasUnknown = false →
      tabulate text first last steps = .error .invalidEquation) ∧
    ∀ equation, parse .equation text = .ok equation → equation.hasUnknown = true →
      (IsTooMany (max steps 1 + 1) →
        tabulate text first last steps = .error .allocationFailure) ∧
      (¬IsTooMany (max steps 1 + 1) →
        ∃ points, tabulate text first last steps = .ok points ∧
          points.length = max steps 1 + 1 ∧
          (∀ index < max steps 1, points[index]? = some (pointAt text
            (first + (last - first) / Float.ofNat (max steps 1) * Float.ofNat index))) ∧
          points[max steps 1]? = some (pointAt text last)) := by
  refine ⟨?_, ?_, ?_⟩
  · intro fault rejected
    exact tabulate_of_error (parseEquation_of_error rejected)
  · intro equation accepted noUnknown
    exact tabulate_of_error (parseEquation_of_noUnknown accepted noUnknown)
  · intro equation accepted hasUnknown
    have denotes := parseEquation_of_hasUnknown accepted hasUnknown
    refine ⟨tabulate_of_isTooMany denotes, ?_⟩
    intro fits
    refine ⟨_, tabulate_of_ok denotes fits, ?_, ?_, ?_⟩
    · simp
    · intro index inside
      have among : index < max steps 1 + 1 := by omega
      have notLast : index ≠ max steps 1 := by omega
      simp [among, position, notLast]
    · simp [position]

/-- The reciprocal from minus one to one in four steps has a gap in the middle. -/
theorem tabulate_agrees_with_points_of_reciprocal :
    parse .equation ['1', '/', 'x'] =
        .ok ⟨[.number 1.0, .unknown, .operator .divide], true⟩ ∧
      ¬IsTooMany (max 4 1 + 1) ∧
      ∃ points, tabulate ['1', '/', 'x'] (-1.0) 1.0 4 = .ok points ∧ points.length = 5 ∧
        points[2]? = some ⟨0.0, .error .invalidExpression⟩ ∧
        points[4]? = some ⟨1.0, .ok 1.0⟩ := by
  have accepted : parse .equation ['1', '/', 'x'] =
      .ok ⟨[.number 1.0, .unknown, .operator .divide], true⟩ := by
    decide +kernel
  have fits : ¬IsTooMany (max 4 1 + 1) := by
    unfold IsTooMany
    decide
  rcases ((tabulate_agrees_with_points ['1', '/', 'x'] (-1.0) 1.0 4).2.2 _ accepted rfl).2 fits with
    ⟨points, tabulates, count, inside, atLast⟩
  have middle : -1.0 + (1.0 - -1.0) / Float.ofNat (max 4 1) * Float.ofNat 2 = (0.0 : Float) := by
    decide +kernel
  have gap : evaluateEquation ['1', '/', 'x'] 0.0 = .error .invalidExpression := by decide +kernel
  have one : evaluateEquation ['1', '/', 'x'] 1.0 = .ok 1.0 := by decide +kernel
  refine ⟨accepted, fits, points, tabulates, count, ?_, ?_⟩
  · rw [inside 2 (by decide), middle, pointAt, gap]
  · rw [← one]
    exact atLast

end Expression

end Reckoner
