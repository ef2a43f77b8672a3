import Reckoner.Json.Reader
import Reckoner.Proofs.Expression.Numerals

/-!
# Scalars of JSON texts are read

Which texts spell a scalar is told by the grammar of JSON: words, numbers, and texts in quotes whose
characters stand for themselves or are escaped. Every such text is read as its scalar, if no numeral
goes on behind it.

Inside quotes, half of a surrogate pair is a character that does not exist. A first half that stands
alone must not be followed by a second one, since together they would be a character.
-/

namespace Reckoner

namespace Json

open Reader

/-! ## Characters in quotes -/

/-- The texts of one character inside quotes, and of the second half of a pair, which is none. -/
inductive SpellsChar : Option Char → List Char → Prop where
  | plain {letter : Char} (notControl : 0x20 ≤ letter.toNat) (notQuote : letter ≠ '"')
      (notBackslash : letter ≠ '\\') : SpellsChar (some letter) [letter]
  | escape {letter character : Char} (escapes : escaped? letter = some character) :
      SpellsChar (some character) ['\\', letter]
  | unit {digits : List Char} {unit : Nat} (isUnit : hexUnit? digits = some (unit, []))
      (notLow : isLowSurrogate unit = false) (notHigh : isHighSurrogate unit = false) :
      SpellsChar (some (Char.ofNat unit)) ('\\' :: 'u' :: digits)
  | pair {first second : List Char} {high low : Nat} (isFirst : hexUnit? first = some (high, []))
      (isSecond : hexUnit? second = some (low, [])) (isHigh : isHighSurrogate high = true)
      (isLow : isLowSurrogate low = true) :
      SpellsChar (some (Char.ofNat (0x10000 + (high - 0xD800) * 0x400 + (low - 0xDC00))))
        ('\\' :: 'u' :: first ++ '\\' :: 'u' :: second)
  | lowHalf {digits : List Char} {unit : Nat} (isUnit : hexUnit? digits = some (unit, []))
      (isLow : isLowSurrogate unit = true) : SpellsChar none ('\\' :: 'u' :: digits)

/-- Whether a text starts with the second half of a pair. -/
def StartsWithLowHalf (text : List Char) : Prop :=
  ∃ digits unit rest, text = '\\' :: 'u' :: digits ∧ hexUnit? digits = some (unit, rest) ∧
    isLowSurrogate unit = true

/-- The texts of characters inside quotes. -/
inductive SpellsChars : List (Option Char) → List Char → Prop where
  | nil : SpellsChars [] []
  | cons {character : Option Char} {characters : List (Option Char)} {text rest : List Char}
      (first : SpellsChar character text) (others : SpellsChars characters rest) :
      SpellsChars (character :: characters) (text ++ rest)
  | highHalf {characters : List (Option Char)} {digits rest : List Char} {unit : Nat}
      (isUnit : hexUnit? digits = some (unit, [])) (isHigh : isHighSurrogate unit = true)
      (isAlone : ¬ StartsWithLowHalf rest) (others : SpellsChars characters rest) :
      SpellsChars (none :: characters) ('\\' :: 'u' :: digits ++ rest)

/-- The texts in quotes, which denote no string if one of their characters is none. -/
inductive SpellsQuoted : Option String → List Char → Prop where
  | quotes {characters : List (Option Char)} {text : List Char}
      (body : SpellsChars characters text) :
      SpellsQuoted ((characters.mapM id).map String.ofList) ('"' :: text ++ ['"'])

section Quoted

variable {character : Option Char} {characters : List (Option Char)} {text digits : List Char}
  {unit : Nat}

theorem not_isLowSurrogate_of_isHighSurrogate (isHigh : isHighSurrogate unit = true) :
    isLowSurrogate unit = false := by
  simp only [isLowSurrogate, isHighSurrogate, decide_eq_true_eq, decide_eq_false_iff_not] at *
  omega

theorem hexUnit?_append {left : List Char} (isUnit : hexUnit? digits = some (unit, left))
    (more : List Char) : hexUnit? (digits ++ more) = some (unit, left ++ more) := by
  rcases digits with _ | ⟨first, _ | ⟨second, _ | ⟨third, _ | ⟨fourth, digits⟩⟩⟩⟩
  any_goals contradiction
  simp only [hexUnit?, List.cons_append, Option.bind_eq_bind, Option.bind_eq_some_iff,
    Option.pure_def, Option.some.injEq, Prod.mk.injEq] at isUnit ⊢
  obtain ⟨a, ha, b, hb, c, hc, d, hd, rfl, rfl⟩ := isUnit
  exact ⟨a, ha, b, hb, c, hc, d, hd, rfl, rfl⟩

theorem SpellsChar.exists_eq_cons (spells : SpellsChar character text) :
    ∃ head tail, text = head :: tail ∧ head ≠ '"' := by
  cases spells with
  | plain _ notQuote _ => exact ⟨_, _, rfl, notQuote⟩
  | escape _ => exact ⟨_, _, rfl, by decide⟩
  | unit _ _ _ => exact ⟨_, _, rfl, by decide⟩
  | pair _ _ _ _ => exact ⟨_, _, rfl, by decide⟩
  | lowHalf _ _ => exact ⟨_, _, rfl, by decide⟩

theorem quotedChar?_of_spellsChar (spells : SpellsChar character text) (rest : List Char) :
    quotedChar? (text ++ rest) = some (character, rest) := by
  cases spells with
  | plain notControl _ notBackslash =>
      simp only [List.cons_append, List.nil_append]
      unfold quotedChar?
      split <;> simp_all
  | @escape letter _ escapes =>
      have notUnit : letter ≠ 'u' := by
        rintro rfl
        contradiction
      simp [quotedChar?, escapes]
  | unit isUnit notLow notHigh =>
      simp [quotedChar?, escapedUnits?, hexUnit?_append isUnit, notLow, notHigh]
  | pair isFirst isSecond isHigh isLow =>
      have notLow := not_isLowSurrogate_of_isHighSurrogate isHigh
      simp [quotedChar?, escapedUnits?, hexUnit?_append isFirst, hexUnit?_append isSecond, isHigh,
        isLow, notLow]
  | lowHalf isUnit isLow =>
      simp [quotedChar?, escapedUnits?, hexUnit?_append isUnit, isLow]

/-- What an escaped unit is followed by cannot be an escape that breaks off. -/
theorem SpellsChars.exists_hexUnit? (spells : SpellsChars characters ('\\' :: 'u' :: digits)) :
    ∃ unit rest, hexUnit? digits = some (unit, rest) := by
  generalize isText : '\\' :: 'u' :: digits = text at spells
  cases spells with
  | nil => contradiction
  | highHalf isUnit _ _ _ =>
      cases isText
      exact ⟨_, _, hexUnit?_append isUnit _⟩
  | cons first _ =>
      cases first with
      | plain _ _ notBackslash => exact absurd (List.cons.inj isText).1.symm notBackslash
      | escape escapes =>
          cases isText
          contradiction
      | unit isUnit _ _ =>
          cases isText
          exact ⟨_, _, hexUnit?_append isUnit _⟩
      | pair isFirst _ _ _ =>
          cases isText
          exact ⟨_, _, by simpa using hexUnit?_append isFirst _⟩
      | lowHalf isUnit _ =>
          cases isText
          exact ⟨_, _, hexUnit?_append isUnit _⟩

theorem quotedChar?_of_highHalf (isUnit : hexUnit? digits = some (unit, []))
    (isHigh : isHighSurrogate unit = true) (isAlone : ¬ StartsWithLowHalf text)
    (others : SpellsChars characters text) (rest : List Char) :
    quotedChar? ('\\' :: 'u' :: digits ++ (text ++ '"' :: rest)) =
      some (none, text ++ '"' :: rest) := by
  have notLow := not_isLowSurrogate_of_isHighSurrogate isHigh
  simp only [List.cons_append, quotedChar?, escapedUnits?, hexUnit?_append isUnit, isHigh, notLow]
  simp only [Bool.false_eq_true, if_false, if_true, List.nil_append]
  split
  · next second isEscape =>
    rcases text with _ | ⟨_, _ | ⟨_, tail⟩⟩
    · simp at isEscape
    · simp at isEscape
    · simp only [List.cons_append, List.cons.injEq] at isEscape
      obtain ⟨rfl, rfl, rfl⟩ := isEscape
      rcases others.exists_hexUnit? with ⟨low, left, isLowUnit⟩
      have notLowUnit : isLowSurrogate low = false := by
        rw [← Bool.not_eq_true]
        exact fun isLow => isAlone ⟨_, _, _, rfl, isLowUnit, isLow⟩
      simp [hexUnit?_append isLowUnit, notLowUnit]
  · rfl

theorem quotedRest?_of_quotedChar? {fuel : Nat} {taken : List (Option Char)} {rest : List Char}
    (reads : quotedChar? text = some (character, rest)) (noQuote : text.head? ≠ some '"') :
    quotedRest? (fuel + 1) taken text = quotedRest? fuel (character :: taken) rest := by
  have noClosing : ∀ left, text = '"' :: left → False := by
    rintro left rfl
    simp at noQuote
  rw [quotedRest?.eq_3 _ _ _ noClosing, reads]

theorem quotedRest?_of_spellsChars (spells : SpellsChars characters text) {fuel : Nat}
    (enough : text.length < fuel) (taken : List (Option Char)) (rest : List Char) :
    quotedRest? fuel taken (text ++ '"' :: rest) = some (characters.reverse ++ taken, rest) := by
  induction spells generalizing fuel taken with
  | nil =>
      obtain ⟨fuel, rfl⟩ : ∃ less, fuel = less + 1 := ⟨fuel - 1, by omega⟩
      rfl
  | @cons character characters text others first spells ih =>
      obtain ⟨head, tail, rfl, noQuote⟩ := first.exists_eq_cons
      obtain ⟨fuel, rfl⟩ : ∃ less, fuel = less + 1 := ⟨fuel - 1, by omega⟩
      simp only [List.length_append, List.length_cons] at enough
      rw [List.append_assoc, quotedRest?_of_quotedChar? (quotedChar?_of_spellsChar first _)
        (by simpa using noQuote), ih (by omega)]
      simp
  | highHalf isUnit isHigh isAlone others ih =>
      obtain ⟨fuel, rfl⟩ : ∃ less, fuel = less + 1 := ⟨fuel - 1, by omega⟩
      simp only [List.length_append, List.length_cons] at enough
      rw [List.append_assoc, quotedRest?_of_quotedChar?
        (quotedChar?_of_highHalf isUnit isHigh isAlone others rest) (by simp), ih (by omega)]
      simp

/-- What is written in quotes is read up to its closing quote. -/
theorem quoted?_of_spellsQuoted {value : Option String} (spells : SpellsQuoted value text)
    (rest : List Char) : quoted? (text ++ rest) = some (value, rest) := by
  cases spells with
  | @quotes characters text body =>
      simp only [List.cons_append, List.append_assoc, List.nil_append, quoted?]
      have enough : text.length < (text ++ '"' :: rest).length + 1 := by
        simp only [List.length_append, List.length_cons]
        omega
      rw [quotedRest?_of_spellsChars body enough]
      simp

end Quoted

/-! ## Scalars -/

/-- The texts of a scalar; quotes without a string in them spell none. -/
inductive SpellsScalar : Option Scalar → List Char → Prop where
  | null : SpellsScalar (some .null) ['n', 'u', 'l', 'l']
  | flagTrue : SpellsScalar (some (.flag true)) ['t', 'r', 'u', 'e']
  | flagFalse : SpellsScalar (some (.flag false)) ['f', 'a', 'l', 's', 'e']
  | number {value : Number} (admissible : Number.isAdmissible value.numeral = true) :
      SpellsScalar (some (.number value)) value.text
  | text {value : Option String} {text : List Char} (quotes : SpellsQuoted value text) :
      SpellsScalar (value.map Scalar.text) text

/-- Whether a text starts with what may follow a scalar; no numeral goes on there. -/
def FollowsScalar (rest : List Char) : Prop :=
  ∀ character ∈ rest.head?, isBlank character = true ∨ character ∈ [',', ']', '\x7d']

section Scalars

variable {text rest : List Char}

theorem FollowsScalar.endsBefore (follows : FollowsScalar rest) (numeral : Numeral) :
    numeral.EndsBefore rest := by
  rcases rest with _ | ⟨character, rest⟩
  · exact numeral.endsBefore_nil
  · have isOneOf : character = ' ' ∨ character = '\t' ∨ character = '\n' ∨ character = '\r' ∨
        character = ',' ∨ character = ']' ∨ character = '\x7d' := by
      have isHead := follows character rfl
      grind [isBlank]
    rcases isOneOf with rfl | rfl | rfl | rfl | rfl | rfl | rfl
    all_goals exact numeral.endsBefore_cons rest (by decide) (by decide) (by decide)

theorem number?_of_isAdmissible {value : Number}
    (admissible : Number.isAdmissible value.numeral = true)
    (follows : FollowsScalar rest) : number? (value.text ++ rest) = some (value, rest) := by
  have reads := Numeral.read?_text_append (follows.endsBefore value.numeral)
  rcases value with ⟨_ | _, numeral⟩
  · rcases numeral.exists_text_eq_cons with ⟨digit, digits, isText, isDigit⟩
    have noMinus : digit ≠ '-' := by
      rintro rfl
      contradiction
    rw [isText] at reads
    simp only [Number.text, Decimal.signText, Bool.false_eq_true, if_false, List.nil_append, isText]
    simp_all [number?]
  · simp_all [number?, Number.text, Decimal.signText]

theorem Number.exists_text_eq_cons (value : Number) :
    ∃ head tail, value.text = head :: tail ∧ (head = '-' ∨ head.isDigit = true) := by
  rcases value with ⟨_ | _, numeral⟩
  · rcases numeral.exists_text_eq_cons with ⟨digit, digits, isText, isDigit⟩
    exact ⟨digit, digits, isText, .inr isDigit⟩
  · exact ⟨'-', numeral.text, rfl, .inl rfl⟩

/-- Whether a character is neither blank nor opens a list or fields. -/
def StartsScalar (head : Char) : Prop := isBlank head = false ∧ head ≠ '[' ∧ head ≠ '\x7b'

instance (head : Char) : Decidable (StartsScalar head) := by
  unfold StartsScalar
  infer_instance

theorem startsScalar_of_isDigit {digit : Char} (isDigit : digit.isDigit = true) :
    StartsScalar digit := by
  have differs {other : Char} (noDigit : other.isDigit = false) : digit ≠ other := by
    rintro rfl
    rw [noDigit] at isDigit
    contradiction
  have noSpace : digit ≠ ' ' := differs (by decide)
  have noTab : digit ≠ '\t' := differs (by decide)
  have noLine : digit ≠ '\n' := differs (by decide)
  have noReturn : digit ≠ '\r' := differs (by decide)
  exact ⟨by simp [isBlank, noSpace, noTab, noLine, noReturn], differs (by decide),
    differs (by decide)⟩

theorem SpellsScalar.exists_eq_cons {value : Option Scalar} (spells : SpellsScalar value text) :
    ∃ head tail, text = head :: tail ∧ StartsScalar head := by
  cases spells with
  | null => exact ⟨_, _, rfl, by decide⟩
  | flagTrue => exact ⟨_, _, rfl, by decide⟩
  | flagFalse => exact ⟨_, _, rfl, by decide⟩
  | text quotes =>
      cases quotes with
      | quotes _ => exact ⟨_, _, rfl, by decide⟩
  | @number value _ =>
      rcases value.exists_text_eq_cons with ⟨head, tail, isText, rfl | isDigit⟩
      · exact ⟨_, _, isText, by decide⟩
      · exact ⟨_, _, isText, startsScalar_of_isDigit isDigit⟩

theorem scalar?_of_head {head : Char} {tail : List Char}
    (isSign : head = '-' ∨ head.isDigit = true) :
    scalar? (head :: tail) =
      (number? (head :: tail)).map fun (value, rest) => (some (.number value), rest) := by
  unfold scalar?
  split
  any_goals rfl
  all_goals
    next same =>
    cases same
    simp_all

/-- Every scalar is read up to its end. -/
theorem scalar?_of_spellsScalar {value : Option Scalar} (spells : SpellsScalar value text)
    (follows : FollowsScalar rest) : scalar? (text ++ rest) = some (value, rest) := by
  cases spells with
  | null => simp [scalar?, word?]
  | flagTrue => simp [scalar?, word?]
  | flagFalse => simp [scalar?, word?]
  | text quotes =>
      have reads := quoted?_of_spellsQuoted quotes rest
      cases quotes with
      | quotes body => simp_all [scalar?]
  | @number value admissible =>
      have reads := number?_of_isAdmissible admissible follows
      rcases value.exists_text_eq_cons with ⟨head, tail, isText, startsNumber⟩
      rw [isText, List.cons_append] at reads ⊢
      rw [scalar?_of_head startsNumber, reads]
      rfl

end Scalars

end Json

end Reckoner
