import Reckoner.Proofs.Expression.Lexemes
import Reckoner.Proofs.Expression.Numerals

/-!
# Lexemes as text

Lexemes that are written down with blanks between them are read back, whatever the blanks are. In
the other direction every text is put together from the lexemes that are read from it, with blanks
before them, up to a place where no lexeme starts; without such a place the whole text is.

Both directions rest on where a lexeme ends: a name in front of everything but a letter of a name, a
numeral in front of everything that could not go on with it, a symbol everywhere.
-/

namespace Reckoner

namespace Expression

namespace Lexeme

/-- Whether a lexeme ends in front of a text, since no part of it goes on there. -/
def EndsBefore (rest : List Char) : Lexeme → Prop
  | .number numeral => numeral.EndsBefore rest
  | .operator .modulo | .function _ => ∀ character ∈ rest.head?, isNameLetter character = false
  | _ => True

/-- Whether characters are blanks, possibly none. -/
def IsPadding (padding : List Char) : Prop := ∀ character ∈ padding, isBlank character = true

/-- Lexemes, each behind its padding, and the padding at the end, as one text. -/
def render (ending : List Char) : List (List Char × Lexeme) → List Char
  | [] => ending
  | (padding, lexeme) :: entries => padding ++ (lexeme.text ++ render ending entries)

/-- Lexemes that stand apart: all padding is blank, and there is some between any two of them. -/
structure IsSpaced (entries : List (List Char × Lexeme)) (ending : List Char) : Prop where
  isPadding : ∀ entry ∈ entries, IsPadding entry.1
  isPadding_ending : IsPadding ending
  apart : ∀ entry ∈ entries.tail, entry.1 ≠ []

/-- Whether a numeral in front of a text is the longest that starts there. -/
def IsLongest (numeral : Numeral) (rest : List Char) : Prop :=
  ∀ (other : Numeral) (tail : List Char), numeral.text ++ rest = other.text ++ tail →
    other.text.length ≤ numeral.text.length

/-- How a text is put together from lexemes, with blanks before them, up to a place where the rest
of the text is left. Every numeral is the longest at its place. -/
inductive Spells (unread : List Char) : List Char → List Lexeme → Prop where
  | padding {padding : List Char} (isPadding : IsPadding padding) :
      Spells unread (padding ++ unread) []
  | lexeme {padding rest : List Char} {lexeme : Lexeme} {lexemes : List Lexeme}
      (isPadding : IsPadding padding)
      (isLongest : ∀ numeral, lexeme = .number numeral → IsLongest numeral rest)
      (following : Spells unread rest lexemes) :
      Spells unread (padding ++ (lexeme.text ++ rest)) (lexeme :: lexemes)

variable {character : Char} {following rest : List Char} {lexeme : Lexeme}

/-! ## Reading what was written -/

theorem not_part_of_isBlank (blank : isBlank character = true) :
    isNameLetter character = false ∧ character.isDigit = false ∧ character ≠ '.' ∧
      character ≠ 'e' ∧ character ≠ 'E' := by
  simp only [isBlank, Bool.or_eq_true, beq_iff_eq] at blank
  rcases blank with ((rfl | rfl) | rfl) | rfl <;> decide

/-- Every lexeme ends before a blank and at the end of a text. -/
theorem endsBefore_of_isBlank (lexeme : Lexeme)
    (blank : ∀ character ∈ rest.head?, isBlank character = true) : lexeme.EndsBefore rest := by
  have notName : ∀ character ∈ rest.head?, isNameLetter character = false :=
    fun character isHead => (not_part_of_isBlank (blank character isHead)).1
  cases lexeme with
  | number numeral =>
      rcases rest with _ | ⟨character, rest⟩
      · exact numeral.endsBefore_nil
      · rcases not_part_of_isBlank (blank character rfl) with ⟨-, notDigit, notPoint, notLetter⟩
        exact Numeral.endsBefore_cons rest notDigit notPoint notLetter
  | operator symbol =>
      cases symbol with
      | modulo => exact notName
      | _ => trivial
  | function called => exact notName
  | _ => trivial

theorem name_of_mem_names {name : List Char} (isName : name ∈ names) :
    (∀ letter ∈ name, isNameLetter letter = true) ∧
      ∀ first ∈ name.head?, first ∉ symbols ∧ first.isDigit = false := by
  have areLetters : names.all (·.all isNameLetter) = true := by decide
  have areFirst : names.all
      (·.head?.all fun first => first ∉ symbols ∧ first.isDigit = false) = true := by
    decide
  have letters := List.all_eq_true.mp areLetters name isName
  have first := List.all_eq_true.mp areFirst name isName
  refine ⟨List.all_eq_true.mp letters, ?_⟩
  intro character isHead
  rw [Option.mem_def.mp isHead] at first
  exact of_decide_eq_true first

theorem read_name_append {name : List Char} (isName : ofName? (character :: name) = some lexeme)
    (ends : ∀ letter ∈ rest.head?, isNameLetter letter = false) :
    read character (name ++ rest) = .ok (lexeme, rest) := by
  have isAmong : character :: name ∈ names := by
    refine Decidable.of_not_not ?_
    rw [← ofName?_eq_none_iff, isName]
    exact Option.some_ne_none lexeme
  rcases name_of_mem_names isAmong with ⟨letters, first⟩
  rcases first character rfl with ⟨notSymbol, notDigit⟩
  have isLetter := letters character List.mem_cons_self
  have inside : ∀ letter ∈ name, isNameLetter letter = true :=
    fun letter member => letters letter (List.mem_cons_of_mem character member)
  have stops : rest.takeWhile isNameLetter = [] ∧ rest.dropWhile isNameLetter = rest := by
    rcases rest with _ | ⟨letter, rest⟩
    · exact ⟨rfl, rfl⟩
    · simp [ends letter rfl]
  have noChar := ofChar?_eq_none_iff.mpr notSymbol
  have noNumeral := (numeralRead?_eq_none_iff (name ++ rest)).mpr notDigit
  simp [read, noChar, noNumeral, isLetter, List.takeWhile_append_of_pos inside,
    List.dropWhile_append_of_pos inside, stops, isName]

/-- A lexeme is read in front of every text that it ends before. -/
theorem readAll_text_append (lexeme : Lexeme) (ends : lexeme.EndsBefore rest) :
    readAll (lexeme.text ++ rest) = ⟨lexeme :: (readAll rest).lexemes, (readAll rest).fault⟩ := by
  cases lexeme with
  | number numeral =>
      have numeralReads := Numeral.read?_text_append ends
      rcases numeral.exists_text_eq_cons with ⟨digit, following, textEq, isDigit⟩
      rw [textEq, List.cons_append] at numeralReads
      rw [text, textEq, List.cons_append]
      exact readAll_of_read (not_special_of_isDigit isDigit).2
        (read_of_numeralRead? isDigit numeralReads)
  | operator symbol =>
      cases symbol with
      | modulo =>
          have isName : ofName? ['m', 'o', 'd'] = some (.operator .modulo) := rfl
          exact readAll_of_read (by decide) (read_name_append isName ends)
      | _ => exact readAll_of_read (by decide) rfl
  | function called =>
      cases called <;> exact readAll_of_read (by decide) (read_name_append rfl ends)
  | _ => exact readAll_of_read (by decide) rfl

theorem isPadding_nil : IsPadding [] := by
  intro character member
  contradiction

theorem readAll_padding_append {padding : List Char} (isPadding : IsPadding padding)
    (rest : List Char) :
    readAll (padding ++ rest) = readAll rest := by
  induction padding with
  | nil => rfl
  | cons blank padding ih =>
      rw [List.cons_append, readAll_of_isBlank (isPadding blank List.mem_cons_self)]
      exact ih fun character member => isPadding character (List.mem_cons_of_mem blank member)

theorem head?_render_of_apart {ending : List Char} {entries : List (List Char × Lexeme)}
    (isPadding : ∀ entry ∈ entries, IsPadding entry.1) (isPadding_ending : IsPadding ending)
    (apart : ∀ entry ∈ entries, entry.1 ≠ []) :
    ∀ character ∈ (render ending entries).head?, isBlank character = true := by
  intro character isHead
  rcases entries with _ | ⟨⟨_ | ⟨blank, padding⟩, lexeme⟩, entries⟩
  · exact isPadding_ending character (List.mem_of_mem_head? isHead)
  · exact absurd rfl (apart _ List.mem_cons_self)
  · obtain rfl : blank = character := by simpa [render] using isHead
    exact isPadding _ List.mem_cons_self blank List.mem_cons_self

/-- Lexemes that stand apart are read back, and nothing else is. -/
theorem readAll_render {entries : List (List Char × Lexeme)} {ending : List Char}
    (spaced : IsSpaced entries ending) :
    readAll (render ending entries) = ⟨entries.map Prod.snd, none⟩ := by
  rcases spaced with ⟨isPadding, isPadding_ending, apart⟩
  induction entries with
  | nil =>
      have readsEnding := readAll_padding_append isPadding_ending []
      rwa [List.append_nil, readAll_nil] at readsEnding
  | cons entry entries ih =>
      rcases entry with ⟨padding, lexeme⟩
      have paddings : ∀ entry ∈ entries, IsPadding entry.1 :=
        fun entry member => isPadding entry (List.mem_cons_of_mem _ member)
      have ends : lexeme.EndsBefore (render ending entries) :=
        lexeme.endsBefore_of_isBlank (head?_render_of_apart paddings isPadding_ending apart)
      have readsRest := ih paddings fun entry member => apart entry (List.mem_of_mem_tail member)
      rw [render, readAll_padding_append (isPadding _ List.mem_cons_self),
        readAll_text_append lexeme ends, readsRest]
      rfl

/-! ## What was read is what was written -/

theorem endsBefore_of_ofChar? (isSymbol : ofChar? character = some lexeme) :
    lexeme.EndsBefore rest := by
  have isText := text_of_ofChar? isSymbol
  simp only [ofChar?] at isSymbol
  split at isSymbol
  · cases isSymbol
    trivial
  split at isSymbol
  · cases isSymbol
    trivial
  split at isSymbol
  · cases isSymbol
    trivial
  rcases Option.map_eq_some_iff.mp isSymbol with ⟨symbol, -, rfl⟩
  cases symbol with
  | modulo => simp [text, Operator.text] at isText
  | _ => trivial

theorem endsBefore_of_ofName? {name : List Char} (isName : ofName? name = some lexeme)
    (ends : ∀ letter ∈ rest.head?, isNameLetter letter = false) : lexeme.EndsBefore rest := by
  simp only [ofName?] at isName
  split at isName
  · cases isName
    exact ends
  · rcases Option.map_eq_some_iff.mp isName with ⟨called, -, rfl⟩
    exact ends

/-- What is read ends where its reading stops. -/
theorem endsBefore_of_read (reads : read character following = .ok (lexeme, rest)) :
    lexeme.EndsBefore rest := by
  simp only [read] at reads
  split at reads
  · next isSymbol =>
    cases reads
    exact endsBefore_of_ofChar? isSymbol
  split at reads
  · next isNumeral =>
    cases reads
    exact Numeral.endsBefore_of_read? isNumeral
  split at reads
  · split at reads
    · next isName =>
      cases reads
      refine endsBefore_of_ofName? isName ?_
      intro letter isHead
      have stopped := List.head?_dropWhile_not isNameLetter following
      simpa [Option.mem_def.mp isHead] using stopped
    · contradiction
  · contradiction

theorem isLongest_of_endsBefore (ends : lexeme.EndsBefore rest) (numeral : Numeral)
    (isNumber : lexeme = .number numeral) : IsLongest numeral rest := by
  subst isNumber
  intro other tail starts
  exact Numeral.EndsBefore.length_text_le ends starts.symm

theorem Spells.cons_isBlank {unread text : List Char} {lexemes : List Lexeme}
    (blank : isBlank character = true) (spells : Spells unread text lexemes) :
    Spells unread (character :: text) lexemes := by
  have isPadding_cons : ∀ {padding : List Char}, IsPadding padding →
      IsPadding (character :: padding) := by
    intro padding isPadding
    simpa [IsPadding, blank] using isPadding
  cases spells with
  | padding isPadding => exact .padding (isPadding_cons isPadding)
  | lexeme isPadding isLongest following =>
      exact .lexeme (isPadding_cons isPadding) isLongest following

/-- A text is put together from the lexemes that are read from it, up to where no lexeme starts. -/
theorem exists_spells (text : List Char) :
    ∃ unread, Spells unread text (readAll text).lexemes ∧
      ((readAll text).fault = none → unread = []) ∧
      ∀ fault, (readAll text).fault = some fault →
        ∃ character following, unread = character :: following ∧
          read character following = .error fault := by
  fun_induction readAll text with
  | case1 => exact ⟨[], .padding isPadding_nil, fun _ => rfl, by simp⟩
  | case2 character following blank ih =>
      rcases ih with ⟨unread, spells, ended, stopped⟩
      exact ⟨unread, spells.cons_isBlank blank, ended, stopped⟩
  | case3 character following notBlank fault reads =>
      refine ⟨character :: following, .padding isPadding_nil, by simp, ?_⟩
      intro _ isFault
      cases isFault
      exact ⟨character, following, rfl, reads⟩
  | case4 character following notBlank lexeme rest reads reading ih =>
      rcases ih with ⟨unread, spells, ended, stopped⟩
      refine ⟨unread, ?_, ended, stopped⟩
      rw [← text_append_of_read reads]
      exact .lexeme isPadding_nil (isLongest_of_endsBefore (endsBefore_of_read reads)) spells

theorem fault_of_read {fault : Fault} (fails : read character following = .error fault) :
    fault = .invalidExpression ∨ fault = .functionUsage := by
  rcases read_eq_error_iff.mp fails with ⟨-, -, isFault⟩
  split at isFault
  · exact .inr isFault.2
  · exact .inl isFault

/-- Lexemes that are written with blanks between them are read back. A text that is read without
fault is put together from the lexemes read, each numeral as long as it can be; any other text is so
up to the place of its only fault, an unknown character or an unknown name. -/
theorem readAll_undoes_rendering :
    (∀ entries ending, IsSpaced entries ending →
      readAll (render ending entries) = ⟨entries.map Prod.snd, none⟩) ∧
    ∀ text,
      ((readAll text).fault = none → Spells [] text (readAll text).lexemes) ∧
      ∀ fault, (readAll text).fault = some fault →
        (fault = .invalidExpression ∨ fault = .functionUsage) ∧
          ∃ character following, read character following = .error fault ∧
            Spells (character :: following) text (readAll text).lexemes := by
  refine ⟨fun _ _ => readAll_render, ?_⟩
  intro text
  rcases exists_spells text with ⟨unread, spells, ended, stopped⟩
  constructor
  · intro noFault
    rwa [ended noFault] at spells
  · intro fault isFault
    rcases stopped fault isFault with ⟨character, following, rfl, fails⟩
    exact ⟨fault_of_read fails, character, following, fails, spells⟩

/-- A remainder of a quarter is written and read back, and an unknown name behind a number ends the
reading there. -/
theorem readAll_undoes_rendering_of_remainder :
    ∃ quarter : Numeral,
      IsSpaced [([' '], .number quarter), (['\t', '\n'], .operator .modulo), (['\r'], .unknown)]
          [' '] ∧
        readAll [' ', '2', '5', 'E', '-', '2', '\t', '\n', 'm', 'o', 'd', '\r', 'x', ' '] =
          ⟨[.number quarter, .operator .modulo, .unknown], none⟩ ∧
        (readAll ['2', '5', 'E', '-', '2', ' ', 'm', 'o']).fault = some .functionUsage ∧
        ∃ character following, read character following = .error .functionUsage ∧
          Spells (character :: following) ['2', '5', 'E', '-', '2', ' ', 'm', 'o']
            (readAll ['2', '5', 'E', '-', '2', ' ', 'm', 'o']).lexemes := by
  let quarter : Numeral := ⟨⟨['2', '5'], rfl⟩, none,
    some ⟨true, some .minus, ⟨['2'], rfl⟩, by decide⟩, by decide⟩
  have spaced : IsSpaced
      [([' '], .number quarter), (['\t', '\n'], .operator .modulo), (['\r'], .unknown)] [' '] := by
    constructor <;> simp [IsPadding, isBlank]
  have isUnknown : (readAll ['2', '5', 'E', '-', '2', ' ', 'm', 'o']).fault =
      some .functionUsage := by
    decide +kernel
  exact ⟨quarter, spaced, readAll_undoes_rendering.1 _ _ spaced, isUnknown,
    ((readAll_undoes_rendering.2 _).2 _ isUnknown).2⟩

end Lexeme

end Expression

end Reckoner
