import Mathlib.Data.List.Basic
import Reckoner.Json.Record
import Reckoner.Proofs.Digits
import Reckoner.Proofs.Json.Documents

/-!
# Written JSON texts follow the grammar

What is written for a document spells that document, so it is read back. The writer needs from a
document only that its fields have names and that its numbers have no needless zeros; numbers that
stand for natural numbers and floats have none. The layout may put blanks between the parts.
-/

namespace Reckoner

namespace Json

open Reader

/-! ## Numbers -/

namespace Number

theorem isAdmissible_whole (value : Nat) :
    ((DigitRun.ofNat value).length == 1 ||
      (DigitRun.ofNat value).chars.head? != some '0') = true := by
  rcases Nat.eq_zero_or_pos value with rfl | positive
  · rfl
  · have noZero := Digits.head?_ofNat positive
    simp [DigitRun.ofNat, noZero]

theorem isAdmissible_ofNat (value : Nat) : isAdmissible (ofNat value).numeral = true := by
  have whole := isAdmissible_whole value
  simp_all [isAdmissible, ofNat]

theorem isAdmissible_withPlaces (coefficient places : Nat) :
    isAdmissible (withPlaces coefficient places) = true := by
  have whole := isAdmissible_whole (coefficient / Nat.pow 10 places)
  have fraction : (DigitRun.padded places (coefficient % Nat.pow 10 places)).chars ≠ [] :=
    List.append_ne_nil_of_right_ne_nil _ (DigitRun.ofNat_ne_nil _)
  simp_all [isAdmissible, withPlaces]

theorem isAdmissible_positional (number : Decimal) : isAdmissible (positional number) = true := by
  unfold positional
  split
  · exact isAdmissible_withPlaces _ _
  · exact isAdmissible_withPlaces _ _

theorem isAdmissible_scientific (number : Decimal) : isAdmissible (scientific number) = true := by
  simp only [scientific]
  split
  · exact isAdmissible_ofNat _
  · exact isAdmissible_withPlaces _ _

end Number

/-- Whether a scalar has a written form that is JSON. -/
def Scalar.IsJson : Scalar → Prop
  | .number value => Number.isAdmissible value.numeral = true
  | _ => True

theorem isJson_ofFloat (value : Float) : (Scalar.ofFloat value).IsJson := by
  unfold Scalar.ofFloat
  split
  · next literal written =>
    unfold Number.ofFloat? at written
    split at written
    · simp only [Option.some.injEq] at written
      subst written
      simp only [Scalar.IsJson]
      split
      · exact Number.isAdmissible_positional _
      · exact Number.isAdmissible_scientific _
    · contradiction
    · contradiction
  · trivial

theorem isJson_ofNat (value : Nat) : (Scalar.ofNat value).IsJson := Number.isAdmissible_ofNat value

/-! ## Texts in quotes -/

theorem hexUnit?_controlCode : ∀ code < 0x20,
    hexUnit? (List.replicate (4 - (Nat.toDigits 16 code).length) '0' ++ Nat.toDigits 16 code) =
      some (code, []) := by
  decide

theorem spellsChar_quotedChar (letter : Char) :
    SpellsChar (some letter) (Scalar.quotedChar letter) := by
  by_cases isShort : letter ∈ ['"', '\\', '\x08', '\x0c', '\n', '\r', '\t']
  · simp only [List.mem_cons, List.not_mem_nil, or_false] at isShort
    rcases isShort with rfl | rfl | rfl | rfl | rfl | rfl | rfl
    all_goals exact .escape rfl
  · simp only [List.mem_cons, List.not_mem_nil, or_false, not_or] at isShort
    rcases isShort with ⟨notQuote, notBackslash, others⟩
    simp only [Scalar.quotedChar, notQuote, notBackslash, others, if_false]
    split
    · next isControl =>
      have notLow : isLowSurrogate letter.toNat = false := by
        simp only [isLowSurrogate, decide_eq_false_iff_not]
        omega
      have notHigh : isHighSurrogate letter.toNat = false := by
        simp only [isHighSurrogate, decide_eq_false_iff_not]
        omega
      have spells := SpellsChar.unit (hexUnit?_controlCode letter.toNat isControl) notLow notHigh
      rwa [Char.ofNat_toNat] at spells
    · next notControl => exact .plain (Nat.le_of_not_lt notControl) notQuote notBackslash

theorem spellsChars_flatMap (text : List Char) :
    SpellsChars (text.map some) (text.flatMap Scalar.quotedChar) := by
  induction text with
  | nil => exact .nil
  | cons letter text ih => exact .cons (spellsChar_quotedChar letter) ih

theorem mapM_id_map_some {α : Type} (values : List α) :
    (values.map some).mapM id = some values := by
  induction values with
  | nil => rfl
  | cons value values ih => simp [ih]

theorem spellsQuoted_quoted (text : String) : SpellsQuoted (some text) (Scalar.quoted text) := by
  have spells := SpellsQuoted.quotes (spellsChars_flatMap text.toList)
  rw [mapM_id_map_some] at spells
  simpa [Scalar.quoted] using spells

theorem Scalar.IsJson.spells_written {value : Scalar} (isJson : value.IsJson) :
    SpellsScalar (some value) value.written := by
  cases value with
  | null => exact .null
  | flag value =>
      cases value with
      | false => exact .flagFalse
      | true => exact .flagTrue
  | number value => exact .number isJson
  | text value => exact .text (spellsQuoted_quoted value)

/-! ## Documents -/

mutual

/-- A document as it is read, where every scalar could have been none. -/
def asRead : Document Scalar → Document (Option Scalar)
  | .scalar value => .scalar (some value)
  | .list items => .list (itemsAsRead items)
  | .fields entries => .fields (entriesAsRead entries)

/-- Items as they are read. -/
def itemsAsRead : List (Document Scalar) → List (Document (Option Scalar))
  | [] => []
  | item :: items => asRead item :: itemsAsRead items

/-- Named fields as they are read. -/
def entriesAsRead : List (Document Scalar × Document Scalar) →
    List (Document (Option Scalar) × Document (Option Scalar))
  | [] => []
  | (name, value) :: entries => (asRead name, asRead value) :: entriesAsRead entries

end

/-- Whether the written form of a document is JSON: the fields have texts as their names, and the
scalars are those of JSON. -/
inductive IsJson : Document Scalar → Prop where
  | scalar {value : Scalar} (isJson : value.IsJson) : IsJson (.scalar value)
  | list {items : List (Document Scalar)} (areJson : ∀ item ∈ items, IsJson item) :
      IsJson (.list items)
  | fields {entries : List (String × Document Scalar)}
      (areJson : ∀ entry ∈ entries, IsJson entry.2) :
      IsJson (ofFields entries)

/-- Whether a layout puts nothing but blanks between the parts of a document. -/
structure Layout.IsJson (layout : Layout) : Prop where
  lineBreak (level : Nat) : IsBlank (layout.lineBreak level)
  colon : ∃ blanks, IsBlank blanks ∧ layout.colon = ':' :: blanks

section Documents

variable {layout : Layout} {level : Nat}

theorem isBlank_nil : IsBlank [] := by simp [IsBlank]

theorem isJson_compact : Layout.compact.IsJson := ⟨fun _ => isBlank_nil, [], isBlank_nil, rfl⟩

theorem isJson_indented : Layout.indented.IsJson := by
  refine ⟨?_, [' '], by simp [IsBlank, isBlank], rfl⟩
  intro level character isLetter
  simp only [Layout.indented, List.mem_cons, List.mem_replicate] at isLetter
  rcases isLetter with rfl | ⟨-, rfl⟩
  · rfl
  · rfl

theorem itemsAsRead_eq_map (items : List (Document Scalar)) :
    itemsAsRead items = items.map asRead := by
  induction items with
  | nil => rfl
  | cons item items ih => simp [itemsAsRead, ih]

theorem asRead_ofFields (entries : List (String × Document Scalar)) :
    asRead (ofFields entries) =
      .fields (entries.map fun entry => (.scalar (some (.text entry.1)), asRead entry.2)) := by
  simp only [ofFields, asRead, Document.fields.injEq]
  induction entries with
  | nil => rfl
  | cons entry entries ih =>
      simp only [List.map_cons, entriesAsRead, ih]
      rfl

theorem writeItems_eq_map (items : List (Document Scalar)) :
    writeItems layout level items = items.map (write layout level) := by
  induction items with
  | nil => rfl
  | cons item items ih => simp [writeItems, ih]

theorem writeEntries_eq_map (entries : List (String × Document Scalar)) :
    writeEntries layout level (entries.map fun (name, value) => (ofString name, value)) =
      entries.map fun entry =>
        Scalar.quoted entry.1 ++ layout.colon ++ write layout level entry.2 := by
  induction entries with
  | nil => rfl
  | cons entry entries ih =>
      simp only [List.map_cons, writeEntries, ih]
      rfl

theorem spells_padLeft {document : Document (Option Scalar)} {blanks text : List Char}
    (areBlanks : IsBlank blanks) (spells : Spells document text) :
    Spells document (blanks ++ text) := by
  simpa using Spells.padded areBlanks spells isBlank_nil

/-- Brackets around items are written with blanks in front of every item and of the closing
bracket. -/
theorem bracketed_eq (isJson : layout.IsJson) (opening closing : Char) (items : List (List Char)) :
    ∃ blanks, IsBlank blanks ∧ layout.bracketed level opening closing items =
      opening :: layout.separated level items ++ blanks ++ [closing] := by
  by_cases isEmpty : items = []
  · subst isEmpty
    exact ⟨[], isBlank_nil, rfl⟩
  · exact ⟨layout.lineBreak level, isJson.lineBreak level, by simp [Layout.bracketed, isEmpty]⟩

theorem spells_write_list {items : List (Document Scalar)} (layoutIsJson : layout.IsJson)
    (areSpelled : ∀ item ∈ items, ∀ level, Spells (asRead item) (write layout level item)) :
    Spells (asRead (.list items)) (write layout level (.list items)) := by
  rcases bracketed_eq layoutIsJson '[' ']' (items.map (write layout (level + 1))) with
    ⟨blanks, areBlanks, isText⟩
  let pieces := items.map fun item =>
    (asRead item, layout.lineBreak (level + 1) ++ write layout (level + 1) item)
  have spells : ∀ piece ∈ pieces, Spells piece.1 piece.2 := by
    simp only [pieces, List.forall_mem_map]
    intro item isItem
    exact spells_padLeft (layoutIsJson.lineBreak _) (areSpelled item isItem _)
  rw [write, writeItems_eq_map, isText, asRead, itemsAsRead_eq_map]
  simpa [pieces, Layout.separated, Function.comp_def] using Spells.list spells areBlanks

theorem spells_write_fields {entries : List (String × Document Scalar)}
    (layoutIsJson : layout.IsJson)
    (areSpelled : ∀ entry ∈ entries, ∀ level,
      Spells (asRead entry.2) (write layout level entry.2)) :
    Spells (asRead (ofFields entries)) (write layout level (ofFields entries)) := by
  rcases layoutIsJson.colon with ⟨afterColon, colonBlanks, isColon⟩
  rcases bracketed_eq layoutIsJson '\x7b' '\x7d' (entries.map fun entry =>
    Scalar.quoted entry.1 ++ layout.colon ++ write layout (level + 1) entry.2) with
    ⟨blanks, areBlanks, isText⟩
  let pieces := entries.map fun entry => FieldText.mk (some entry.1)
    (layout.lineBreak (level + 1) ++ Scalar.quoted entry.1) (asRead entry.2)
    (afterColon ++ write layout (level + 1) entry.2)
  have spellsNames : ∀ field ∈ pieces, SpellsName field.name field.nameText := by
    simp only [pieces, List.forall_mem_map]
    intro entry _
    refine ⟨_, _, [], layoutIsJson.lineBreak (level + 1), spellsQuoted_quoted entry.1, isBlank_nil,
      ?_⟩
    rw [List.append_nil]
  have spellsValues : ∀ field ∈ pieces, Spells field.value field.valueText := by
    simp only [pieces, List.forall_mem_map]
    intro entry isEntry
    exact spells_padLeft colonBlanks (areSpelled entry isEntry _)
  rw [asRead_ofFields, ofFields, write, writeEntries_eq_map, isText]
  simpa [pieces, Layout.separated, Function.comp_def, FieldText.text, FieldText.entry, isColon]
    using Spells.fields spellsNames spellsValues areBlanks

/-- The text that is written for a document spells it. -/
theorem IsJson.spells_write {document : Document Scalar} (isJson : IsJson document)
    (layoutIsJson : layout.IsJson) (level : Nat) :
    Spells (asRead document) (write layout level document) := by
  induction isJson generalizing level with
  | scalar isJson => exact .scalar isJson.spells_written
  | list _ areSpelled => exact spells_write_list layoutIsJson areSpelled
  | fields _ areSpelled => exact spells_write_fields layoutIsJson areSpelled

end Documents

end Json

end Reckoner
