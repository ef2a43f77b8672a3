import Reckoner.Numeral

/-!
# Written numerals are read back

A numeral in front of a text is read as that numeral, unless the text goes on as the numeral could.
The condition is told part by part: the digits at its end must not go on, a point may not follow
whole digits, and no exponent may follow where the numeral has none.
-/

namespace Reckoner

namespace DigitRun

/-- Whether a text starts with no digit, so that digits in front of it end there. -/
def EndsBefore (rest : List Char) : Prop :=
  ∀ character ∈ rest.head?, character.isDigit = false

theorem endsBefore_dropFrom (text : List Char) : EndsBefore (dropFrom text) := by
  intro character isHead
  have stopped := List.head?_dropWhile_not Char.isDigit text
  rw [dropFrom] at isHead
  simpa [Option.mem_def.mp isHead] using stopped

theorem EndsBefore.takeWhile_eq {rest : List Char} (ends : EndsBefore rest) :
    rest.takeWhile Char.isDigit = [] ∧ rest.dropWhile Char.isDigit = rest := by
  cases rest with
  | nil => exact ⟨rfl, rfl⟩
  | cons character rest =>
      have noDigit : character.isDigit = false := ends character rfl
      simp [noDigit]

theorem takeFrom_append {digits : DigitRun} {rest : List Char} (ends : EndsBefore rest) :
    takeFrom (digits.chars ++ rest) = digits := by
  have inside := List.all_eq_true.mp digits.all_isDigit
  simp only [takeFrom, List.takeWhile_append_of_pos inside, ends.takeWhile_eq.1, List.append_nil]

theorem dropFrom_append {digits : DigitRun} {rest : List Char} (ends : EndsBefore rest) :
    dropFrom (digits.chars ++ rest) = rest := by
  have inside := List.all_eq_true.mp digits.all_isDigit
  rw [dropFrom, List.dropWhile_append_of_pos inside, ends.takeWhile_eq.2]

theorem takeFrom_append_ne_nil {digits : DigitRun} (digits_ne_nil : digits.chars ≠ [])
    (rest : List Char) : (takeFrom (digits.chars ++ rest)).chars ≠ [] := by
  rcases digits with ⟨_ | ⟨digit, digits⟩, all_isDigit⟩
  · contradiction
  · have isDigit : digit.isDigit = true := List.all_eq_true.mp all_isDigit digit List.mem_cons_self
    simp [takeFrom, isDigit]

end DigitRun

namespace Exponent

theorem readSign_signText_append {sign : Option Sign} {digits : DigitRun} (rest : List Char)
    (digits_ne_nil : digits.chars ≠ []) :
    readSign (signText sign ++ (digits.chars ++ rest)) = (sign, digits.chars ++ rest) := by
  rcases sign with _ | _ | _
  · rcases digits with ⟨_ | ⟨digit, digits⟩, all_isDigit⟩
    · contradiction
    · have isDigit : digit.isDigit = true :=
        List.all_eq_true.mp all_isDigit digit List.mem_cons_self
      simp only [signText, List.nil_append, List.cons_append]
      unfold readSign
      split
      · next isPlus =>
        obtain ⟨rfl, -⟩ := List.cons.inj isPlus
        contradiction
      · next isMinus =>
        obtain ⟨rfl, -⟩ := List.cons.inj isMinus
        contradiction
      · rfl
  · rfl
  · rfl

theorem readAfterLetter?_append {exponent : Exponent} {rest : List Char}
    (ends : DigitRun.EndsBefore rest) :
    readAfterLetter? exponent.isCapital
        (signText exponent.sign ++ (exponent.digits.chars ++ rest)) =
      some (exponent, rest) := by
  simp only [readAfterLetter?, readSign_signText_append rest exponent.digits_ne_nil,
    DigitRun.takeFrom_append ends, DigitRun.dropFrom_append ends]
  simp [exponent.digits_ne_nil]

theorem read?_text_append {exponent : Exponent} {rest : List Char}
    (ends : DigitRun.EndsBefore rest) : read? (exponent.text ++ rest) = some (exponent, rest) := by
  have reads : readAfterLetter? exponent.isCapital
      (signText exponent.sign ++ (exponent.digits.chars ++ rest)) = some (exponent, rest) :=
    readAfterLetter?_append ends
  cases isCapital : exponent.isCapital with
  | false =>
      rw [isCapital] at reads
      simpa [text, isCapital, read?] using reads
  | true =>
      rw [isCapital] at reads
      simpa [text, isCapital, read?] using reads

theorem endsBefore_of_readAfterLetter? {isCapital : Bool} {text rest : List Char}
    {exponent : Exponent} (reads : readAfterLetter? isCapital text = some (exponent, rest)) :
    DigitRun.EndsBefore rest := by
  simp only [readAfterLetter?] at reads
  split at reads
  · cases reads
    exact DigitRun.endsBefore_dropFrom _
  · contradiction

theorem endsBefore_of_read? {text rest : List Char} {exponent : Exponent}
    (reads : read? text = some (exponent, rest)) : DigitRun.EndsBefore rest := by
  unfold read? at reads
  split at reads
  · exact endsBefore_of_readAfterLetter? reads
  · exact endsBefore_of_readAfterLetter? reads
  · contradiction

theorem read?_text_append_ne_none (exponent : Exponent) (rest : List Char) :
    read? (exponent.text ++ rest) ≠ none := by
  have reads : readAfterLetter? exponent.isCapital
      (signText exponent.sign ++ (exponent.digits.chars ++ rest)) ≠ none := by
    simp [readAfterLetter?, readSign_signText_append rest exponent.digits_ne_nil,
      DigitRun.takeFrom_append_ne_nil exponent.digits_ne_nil]
  cases isCapital : exponent.isCapital with
  | false =>
      rw [isCapital] at reads
      simpa [text, isCapital, read?] using reads
  | true =>
      rw [isCapital] at reads
      simpa [text, isCapital, read?] using reads

/-- Where no exponent can be read in front of more text, none can be read without it. -/
theorem read?_eq_none_of_append {text more : List Char} (reads : read? (text ++ more) = none) :
    read? text = none := by
  rw [Option.eq_none_iff_forall_ne_some]
  rintro ⟨exponent, rest⟩ readsAlone
  rw [← text_append_of_read? readsAlone, List.append_assoc] at reads
  exact read?_text_append_ne_none exponent _ reads

end Exponent

namespace Numeral

/-- Whether a numeral ends in front of a text, since no part of it goes on there. -/
structure EndsBefore (numeral : Numeral) (rest : List Char) : Prop where
  digit : DigitRun.EndsBefore rest
  point : numeral.fraction = none → numeral.exponent = none → rest.head? ≠ some '.'
  exponent : numeral.exponent = none → Exponent.read? rest = none

theorem readExponent_text_append {numeral : Numeral} {rest : List Char}
    (ends : numeral.EndsBefore rest) :
    readExponent (exponentText numeral.exponent ++ rest) = (numeral.exponent, rest) := by
  cases written : numeral.exponent with
  | none => simp [readExponent, exponentText, ends.exponent written]
  | some exponent => simp [readExponent, exponentText, Exponent.read?_text_append ends.digit]

/-- What follows the digits before or behind the point is no digit. -/
theorem EndsBefore.exponentText {numeral : Numeral} {rest : List Char}
    (ends : numeral.EndsBefore rest) :
    DigitRun.EndsBefore (exponentText numeral.exponent ++ rest) := by
  cases written : numeral.exponent with
  | none => simpa [Numeral.exponentText] using ends.digit
  | some exponent =>
      intro character isHead
      obtain rfl : (if exponent.isCapital then 'E' else 'e') = character := Option.some.inj isHead
      cases exponent.isCapital <;> rfl

theorem EndsBefore.fractionText {numeral : Numeral} {rest : List Char}
    (ends : numeral.EndsBefore rest) :
    DigitRun.EndsBefore
      (fractionText numeral.fraction ++ (Numeral.exponentText numeral.exponent ++ rest)) := by
  cases written : numeral.fraction with
  | none => simpa [Numeral.fractionText] using ends.exponentText
  | some digits =>
      intro character isHead
      obtain rfl : character = '.' := by simpa [Numeral.fractionText, eq_comm] using isHead
      rfl

theorem readFraction_text_append {numeral : Numeral} {rest : List Char}
    (ends : numeral.EndsBefore rest) :
    readFraction (fractionText numeral.fraction ++ (exponentText numeral.exponent ++ rest)) =
      (numeral.fraction, exponentText numeral.exponent ++ rest) := by
  cases written : numeral.fraction with
  | some digits =>
      simp only [fractionText, List.cons_append, readFraction,
        DigitRun.takeFrom_append ends.exponentText, DigitRun.dropFrom_append ends.exponentText]
  | none =>
      simp only [fractionText, List.nil_append]
      unfold readFraction
      split
      · next after isPoint =>
        exfalso
        cases hasExponent : numeral.exponent with
        | none =>
            apply ends.point written hasExponent
            simpa [exponentText, hasExponent] using congrArg List.head? isPoint
        | some exponent =>
            rw [hasExponent] at isPoint
            have isLetter : (if exponent.isCapital then 'E' else 'e') = '.' :=
              (List.cons.inj isPoint).1
            cases isCapital : exponent.isCapital <;> simp [isCapital] at isLetter
      · rfl

theorem exists_text_eq_cons (numeral : Numeral) :
    ∃ digit rest, numeral.text = digit :: rest ∧ digit.isDigit = true := by
  rcases numeral with ⟨⟨_ | ⟨digit, digits⟩, all_isDigit⟩, fraction, exponent, whole_ne_nil⟩
  · contradiction
  · exact ⟨digit, _, rfl, List.all_eq_true.mp all_isDigit digit List.mem_cons_self⟩

/-- A numeral is read back in front of every text that it ends before. -/
theorem read?_text_append {numeral : Numeral} {rest : List Char} (ends : numeral.EndsBefore rest) :
    read? (numeral.text ++ rest) = some (numeral, rest) := by
  simp only [read?, text, List.append_assoc, DigitRun.takeFrom_append ends.fractionText,
    DigitRun.dropFrom_append ends.fractionText, readFraction_text_append ends,
    readExponent_text_append ends]
  simp [numeral.whole_ne_nil]

/-- Every numeral ends before a character that is part of no numeral. -/
theorem endsBefore_cons {numeral : Numeral} {character : Char} (rest : List Char)
    (noDigit : character.isDigit = false) (noPoint : character ≠ '.')
    (noLetter : character ≠ 'e' ∧ character ≠ 'E') : numeral.EndsBefore (character :: rest) := by
  refine ⟨?_, ?_, ?_⟩
  · intro head isHead
    obtain rfl : character = head := by simpa using isHead
    exact noDigit
  · intro _ _
    simpa using noPoint
  · intro _
    unfold Exponent.read?
    split
    · next same => exact absurd (List.cons.inj same).1 noLetter.1
    · next same => exact absurd (List.cons.inj same).1 noLetter.2
    · rfl

/-- A numeral ends at the end of a text. -/
theorem endsBefore_nil (numeral : Numeral) : numeral.EndsBefore [] := by
  refine ⟨?_, ?_, ?_⟩
  · intro character isHead
    contradiction
  · intro _ _
    simp
  · intro _
    rfl

theorem endsBefore_of_readExponent {text : List Char} (ends : DigitRun.EndsBefore text) :
    DigitRun.EndsBefore (readExponent text).2 := by
  unfold readExponent
  split
  · next reads => exact Exponent.endsBefore_of_read? reads
  · exact ends

theorem endsBefore_of_readFraction {text : List Char} (ends : DigitRun.EndsBefore text) :
    DigitRun.EndsBefore (readFraction text).2 := by
  unfold readFraction
  split
  · exact DigitRun.endsBefore_dropFrom _
  · exact ends

theorem head?_ne_point_of_readFraction {text : List Char}
    (noFraction : (readFraction text).1 = none) : (readFraction text).2.head? ≠ some '.' := by
  unfold readFraction at *
  split at noFraction
  · contradiction
  · next noPoint =>
    intro isPoint
    rcases List.head?_eq_some_iff.mp isPoint with ⟨rest, rfl⟩
    exact noPoint rest rfl

theorem read?_eq_none_of_readExponent {text : List Char}
    (noExponent : (readExponent text).1 = none) :
    (readExponent text).2 = text ∧ Exponent.read? text = none := by
  unfold readExponent at *
  split at noExponent
  · contradiction
  · next reads => exact ⟨rfl, reads⟩

/-- The numeral that is read ends where its reading stops. -/
theorem endsBefore_of_read? {text rest : List Char} {numeral : Numeral}
    (reads : read? text = some (numeral, rest)) : numeral.EndsBefore rest := by
  simp only [read?] at reads
  split at reads
  · cases reads
    have afterWhole := DigitRun.endsBefore_dropFrom text
    refine ⟨endsBefore_of_readExponent (endsBefore_of_readFraction afterWhole), ?_, ?_⟩
    · intro noFraction noExponent
      rw [(read?_eq_none_of_readExponent noExponent).1]
      exact head?_ne_point_of_readFraction noFraction
    · intro noExponent
      rw [(read?_eq_none_of_readExponent noExponent).1]
      exact (read?_eq_none_of_readExponent noExponent).2
  · contradiction

theorem EndsBefore.of_append {numeral : Numeral} {rest more : List Char}
    (ends : numeral.EndsBefore (rest ++ more)) (rest_ne_nil : rest ≠ []) :
    numeral.EndsBefore rest := by
  have sameHead : (rest ++ more).head? = rest.head? := by
    rcases rest with _ | ⟨character, rest⟩
    · contradiction
    · rfl
  refine ⟨?_, ?_, ?_⟩
  · intro character isHead
    exact ends.digit character (by rwa [sameHead])
  · rw [← sameHead]
    exact ends.point
  · intro noExponent
    exact Exponent.read?_eq_none_of_append (ends.exponent noExponent)

/-- No longer numeral starts where one that ends before the rest of the text starts. It would go on
with a part of the rest, and by itself it is read to its end. -/
theorem EndsBefore.length_text_le {numeral other : Numeral} {rest tail : List Char}
    (ends : numeral.EndsBefore rest) (starts : other.text ++ tail = numeral.text ++ rest) :
    other.text.length ≤ numeral.text.length := by
  refine Nat.not_lt.mp ?_
  intro isLonger
  rcases List.append_eq_append_iff.mp starts with ⟨missing, within, -⟩ | ⟨more, goesOn, restEq⟩
  · rw [within, List.length_append] at isLonger
    omega
  · have more_ne_nil : more ≠ [] := by
      rintro rfl
      simp [goesOn] at isLonger
    subst restEq
    have readsOther := read?_text_append other.endsBefore_nil
    have readsNumeral := read?_text_append (ends.of_append more_ne_nil)
    rw [List.append_nil, goesOn, readsNumeral] at readsOther
    simp [more_ne_nil] at readsOther

end Numeral

end Reckoner
