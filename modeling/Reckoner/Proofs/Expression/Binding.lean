import Reckoner.Expression.Evaluation
import Reckoner.Proofs.Decimal.FixedText

/-!
# Binding the unknown

The unknown takes the float that is read from the text of a value with ten decimal places. Binding
such a float again changes nothing, so the value of an equation depends on the bound float only.
-/

namespace Reckoner

namespace Expression

open Binary64

theorem evaluateEquation_eq_of_roundUnknown_eq {first second : Float}
    (same : roundUnknown first = roundUnknown second) (text : List Char) :
    evaluateEquation text first = evaluateEquation text second := by
  simp only [evaluateEquation, evaluateBound, same]

/-- A value of the unknown can be bound, and bound again without a change. It is shown as the
decimal nearest to it, with ten places and ties to even, and the float read from that is the one
nearest to the decimal. -/
theorem roundUnknown_stable (value : Float) :
    Decimal.floatOfText? (Decimal.fixedText 10 value) = some (roundUnknown value) ∧
      roundUnknown (roundUnknown value) = roundUnknown value ∧
      (∀ text, evaluateEquation text value = evaluateEquation text (roundUnknown value)) ∧
      ∀ negative significand exponent, ofFloat value = .finite negative significand exponent →
        ∃ units : ℕ,
          Rounding.IsNearestEven (significand * 2 ^ exponent * 10 ^ 10) units ∧
            Decimal.IsFixedText 10 negative units (Decimal.fixedText 10 value) ∧
            IsNearestFloat negative (units / 10 ^ 10) (roundUnknown value) := by
  have stable : roundUnknown (roundUnknown value) = roundUnknown value :=
    Decimal.roundToPlaces_roundToPlaces (by decide) value
  refine ⟨?_, stable, ?_, ?_⟩
  · exact Decimal.floatOfText?_fixedText (by decide) (by decide) value
  · intro text
    exact evaluateEquation_eq_of_roundUnknown_eq stable.symm text
  · intro negative significand exponent decodes
    refine ⟨Decimal.scaledToPlaces 10 significand exponent, ?_, ?_, ?_⟩
    · exact Decimal.isNearestEven_scaledToPlaces 10 significand exponent
    · rw [Decimal.fixedText_of_finite decodes]
      exact Decimal.isFixedText_placesText (by decide) negative _
    · exact Decimal.isNearestFloat_roundToPlaces 10 decodes

/-- Just above `2 ^ 18` two steps of the floats make a little more than one unit. The value one step
up moves to the float above it and stays there. -/
theorem roundUnknown_stable_of_close_grids :
    ∃ value : Float, ofFloat value = .finite false (2 ^ 52 + 1) (-34) ∧
      Decimal.IsFixedText 10 false 2621440000000001 (Decimal.fixedText 10 value) ∧
      IsNearestFloat false (2621440000000001 / 10 ^ 10) (roundUnknown value) ∧
      ofFloat (roundUnknown value) = .finite false (2 ^ 52 + 2) (-34) ∧
      roundUnknown (roundUnknown value) = roundUnknown value := by
  have decodes : ofFloat (Float.ofBits 0x4110000000000001) = .finite false (2 ^ 52 + 1) (-34) := by
    decide +kernel
  rcases roundUnknown_stable (Float.ofBits 0x4110000000000001) with ⟨-, stable, -, rounds⟩
  rcases rounds _ _ _ decodes with ⟨units, nearest, isText, isNearest⟩
  have units_eq : units = 2621440000000001 := by
    apply nearest.unique
    apply Rounding.IsNearestEven.of_lt
    norm_num [abs_lt]
  subst units_eq
  have moved : ofFloat (roundUnknown (Float.ofBits 0x4110000000000001)) =
      .finite false (2 ^ 52 + 2) (-34) := by
    decide +kernel
  exact ⟨_, decodes, isText, by exact_mod_cast isNearest, moved, stable⟩

end Expression

end Reckoner
