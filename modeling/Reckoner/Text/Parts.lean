/-!
# Parts of a text

A text is cut at every occurrence of a separator. Empty parts are kept, so the parts with separators
between them are the text again.
-/

namespace Reckoner

namespace Text

/-- The parts of a text between separators, of which there is at least one. -/
def parts (separator : Char) : List Char → List (List Char)
  | [] => [[]]
  | letter :: rest =>
      if letter = separator then [] :: parts separator rest
      else
        match parts separator rest with
        | first :: others => (letter :: first) :: others
        | [] => [[letter]]

/-- There is always a part. -/
theorem parts_ne_nil (separator : Char) (text : List Char) : parts separator text ≠ [] := by
  cases text with
  | nil => simp [parts]
  | cons letter rest =>
      unfold parts
      split
      · simp
      · split <;> simp

/-- The parts with separators between them are the text. -/
theorem intercalate_parts (separator : Char) (text : List Char) :
    [separator].intercalate (parts separator text) = text := by
  induction text with
  | nil => rfl
  | cons letter rest hypothesis =>
      unfold parts
      split
      next isSeparator =>
        subst isSeparator
        cases found : parts letter rest with
        | nil => exact absurd found (parts_ne_nil letter rest)
        | cons first others =>
            rw [found] at hypothesis
            simpa [List.intercalate] using hypothesis
      next =>
        split
        next first others found =>
          rw [found] at hypothesis
          cases others <;> simpa [List.intercalate] using hypothesis
        next found => exact absurd found (parts_ne_nil separator rest)

end Text

end Reckoner
