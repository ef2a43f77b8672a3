import Reckoner.Proofs.Json.Scalars

/-!
# Documents of JSON texts are read

The grammar of documents goes on from that of scalars: items with commas between them stand in
brackets, named fields in braces, and any blanks may stand around every part. Every text that spells
a document is read as it. The proof is by induction on the grammar. What a part leaves unread may
start with blanks, so two texts that agree behind their blanks are read alike.

A part is read within twice as many steps as it has characters, which is the bound that reading
starts with.
-/

namespace Reckoner

namespace Json

open Reader

/-- Whether a text consists of blanks. -/
def IsBlank (text : List Char) : Prop := ∀ character ∈ text, isBlank character = true

/-- The texts of the name of a field. -/
def SpellsName (name : Option String) (text : List Char) : Prop :=
  ∃ before quotes after, IsBlank before ∧ SpellsQuoted name quotes ∧ IsBlank after ∧
    text = before ++ quotes ++ after

/-- A field of a document with the texts of its name and its value. -/
structure FieldText where
  name : Option String
  nameText : List Char
  value : Document (Option Scalar)
  valueText : List Char

/-- The field of a document as it is read. -/
def FieldText.entry (field : FieldText) : Document (Option Scalar) × Document (Option Scalar) :=
  (.scalar (field.name.map Scalar.text), field.value)

/-- The text of a field. -/
def FieldText.text (field : FieldText) : List Char := field.nameText ++ ':' :: field.valueText

/-- The texts of a document, perhaps with blanks around it. -/
inductive Spells : Document (Option Scalar) → List Char → Prop where
  | scalar {value : Option Scalar} {text : List Char} (spells : SpellsScalar value text) :
      Spells (.scalar value) text
  | list {items : List (Document (Option Scalar) × List Char)} {blanks : List Char}
      (spells : ∀ item ∈ items, Spells item.1 item.2) (areBlanks : IsBlank blanks) :
      Spells (.list (items.map Prod.fst))
        ('[' :: [','].intercalate (items.map Prod.snd) ++ blanks ++ [']'])
  | fields {fields : List FieldText} {blanks : List Char}
      (spellsNames : ∀ field ∈ fields, SpellsName field.name field.nameText)
      (spellsValues : ∀ field ∈ fields, Spells field.value field.valueText)
      (areBlanks : IsBlank blanks) :
      Spells (.fields (fields.map FieldText.entry))
        ('\x7b' :: [','].intercalate (fields.map FieldText.text) ++ blanks ++ ['\x7d'])
  | padded {document : Document (Option Scalar)} {before text after : List Char}
      (startsBlank : IsBlank before) (spells : Spells document text) (endsBlank : IsBlank after) :
      Spells document (before ++ text ++ after)

/-! ## Blanks -/

section Blanks

variable {fuel : Nat} {blanks text other rest : List Char}

theorem skipBlanks_append (areBlanks : IsBlank blanks) (text : List Char) :
    skipBlanks (blanks ++ text) = skipBlanks text :=
  List.dropWhile_append_of_pos areBlanks

theorem skipBlanks_skipBlanks (text : List Char) :
    skipBlanks (skipBlanks text) = skipBlanks text := by
  have areBlanks : IsBlank (text.takeWhile isBlank) := List.all_eq_true.mp List.all_takeWhile
  have parts : text.takeWhile isBlank ++ skipBlanks text = text := List.takeWhile_append_dropWhile
  rw [← skipBlanks_append areBlanks (skipBlanks text), parts]

theorem skipBlanks_cons {character : Char} (noBlank : isBlank character = false)
    (rest : List Char) :
    skipBlanks (character :: rest) = character :: rest := by
  simp [skipBlanks, noBlank]

theorem FollowsScalar.append (follows : FollowsScalar rest) (areBlanks : IsBlank blanks) :
    FollowsScalar (blanks ++ rest) := by
  rcases blanks with _ | ⟨blank, blanks⟩
  · exact follows
  · intro character isHead
    obtain rfl : blank = character := by simpa using isHead
    exact .inl (areBlanks blank List.mem_cons_self)

theorem followsScalar_nil : FollowsScalar [] := by
  intro character isHead
  contradiction

theorem followsScalar_cons (character : Char) (isMark : character ∈ [',', ']', '\x7d'])
    (rest : List Char) :
    FollowsScalar (character :: rest) := by
  intro head isHead
  obtain rfl : character = head := by simpa using isHead
  exact .inr isMark

theorem document?_congr (same : skipBlanks text = skipBlanks other) :
    document? fuel text = document? fuel other := by
  cases fuel with
  | zero => rfl
  | succ fuel => simp only [document?, same]

theorem items?_congr {taken : List (Document (Option Scalar))}
    (same : skipBlanks text = skipBlanks other) :
    items? fuel taken text = items? fuel taken other := by
  cases fuel with
  | zero => rfl
  | succ fuel => simp only [items?, document?_congr same]

theorem entries?_congr {taken : List (Document (Option Scalar) × Document (Option Scalar))}
    (same : skipBlanks text = skipBlanks other) :
    entries? fuel taken text = entries? fuel taken other := by
  cases fuel with
  | zero => rfl
  | succ fuel => simp only [entries?, same]

end Blanks

/-! ## Parts with commas between them -/

section Separated

variable {α : Type} {fuel : Nat} {blanks : List Char}

/-- Whether a reader of parts takes a text as one part, in front of a comma and of the closing
mark. -/
structure TakesPart (read : Nat → List α → List Char → Option (List α × List Char)) (closing : Char)
    (part : α) (text : List Char) : Prop where
  comma {fuel : Nat} (enough : 2 * text.length ≤ fuel) (taken : List α) (rest : List Char) :
    read (fuel + 1) taken (text ++ ',' :: rest) = read fuel (part :: taken) rest
  closing {fuel : Nat} {blanks : List Char} (enough : 2 * text.length ≤ fuel)
    (areBlanks : IsBlank blanks) (taken : List α) (rest : List Char) :
    read (fuel + 1) taken (text ++ (blanks ++ closing :: rest)) =
      some ((part :: taken).reverse, rest)

/-- Parts are read up to the closing mark. -/
theorem read_intercalate {read : Nat → List α → List Char → Option (List α × List Char)}
    {closing : Char} {parts : List (α × List Char)} (notEmpty : parts ≠ [])
    (takesParts : ∀ part ∈ parts, TakesPart read closing part.1 part.2) (areBlanks : IsBlank blanks)
    (enough : 2 * ([','].intercalate (parts.map Prod.snd)).length + 2 ≤ fuel) (taken : List α)
    (rest : List Char) :
    read fuel taken ([','].intercalate (parts.map Prod.snd) ++ (blanks ++ closing :: rest)) =
      some (taken.reverse ++ parts.map Prod.fst, rest) := by
  induction parts generalizing fuel taken with
  | nil => contradiction
  | cons part parts ih =>
      obtain ⟨fuel, rfl⟩ : ∃ less, fuel = less + 1 := ⟨fuel - 1, by omega⟩
      rcases List.forall_mem_cons.mp takesParts with ⟨takesPart, takesOthers⟩
      by_cases isLast : parts = []
      · subst isLast
        simp only [List.map_cons, List.map_nil, List.intercalate_singleton] at enough ⊢
        rw [takesPart.closing (by omega) areBlanks, List.reverse_cons]
      · rw [List.map_cons, List.intercalate_cons_of_ne_nil (by simpa using isLast)] at enough ⊢
        simp only [List.append_assoc, List.cons_append, List.nil_append, List.length_append,
          List.length_cons] at enough ⊢
        rw [takesPart.comma (by omega), ih isLast takesOthers (by omega)]
        simp

end Separated

/-! ## Lists and fields -/

section Parts

variable {fuel : Nat} {text blanks rest : List Char} {document : Document (Option Scalar)}

/-- Whether a text is read as a document wherever it ends, up to blanks behind it. -/
def IsRead (document : Document (Option Scalar)) (text : List Char) : Prop :=
  ∀ fuel rest, 2 * text.length ≤ fuel → FollowsScalar rest →
    ∃ left, document? fuel (text ++ rest) = some (document, left) ∧
      skipBlanks left = skipBlanks rest

theorem takesPart_items? (isRead : IsRead document text) : TakesPart items? ']' document text where
  comma enough taken rest := by
    rcases isRead _ _ enough (followsScalar_cons ',' (by simp) rest) with ⟨left, reads, same⟩
    rw [skipBlanks_cons (by decide)] at same
    simp [items?, reads, same]
  closing enough areBlanks taken rest := by
    have follows := (followsScalar_cons ']' (by simp) rest).append areBlanks
    rcases isRead _ _ enough follows with ⟨left, reads, same⟩
    rw [skipBlanks_append areBlanks, skipBlanks_cons (by decide)] at same
    simp [items?, reads, same]

theorem document?_bracket (closing : skipBlanks text = ']' :: rest) :
    document? fuel text = none := by
  cases fuel with
  | zero => rfl
  | succ fuel =>
      simp only [document?, closing]
      rfl

theorem items?_bracket {taken : List (Document (Option Scalar))}
    (closing : skipBlanks text = ']' :: rest) :
    items? fuel taken text = none := by
  cases fuel with
  | zero => rfl
  | succ fuel => simp only [items?, document?_bracket closing]

theorem isRead_list {items : List (Document (Option Scalar) × List Char)}
    (areRead : ∀ item ∈ items, IsRead item.1 item.2) (areBlanks : IsBlank blanks) :
    IsRead (.list (items.map Prod.fst))
      ('[' :: [','].intercalate (items.map Prod.snd) ++ blanks ++ [']']) := by
  intro fuel rest enough _
  obtain ⟨fuel, rfl⟩ : ∃ less, fuel = less + 1 := ⟨fuel - 1, by simp at enough; omega⟩
  refine ⟨rest, ?_, rfl⟩
  simp only [List.cons_append, List.append_assoc, List.nil_append, List.length_append,
    List.length_cons, List.length_nil] at enough ⊢
  simp only [document?, skipBlanks_cons (by decide : isBlank '[' = false)]
  by_cases isEmpty : items = []
  · subst isEmpty
    simp [skipBlanks_append areBlanks, skipBlanks_cons (by decide : isBlank ']' = false)]
  · have takesItems (item) (isItem : item ∈ items) := takesPart_items? (areRead item isItem)
    have enoughItems : 2 * ([','].intercalate (items.map Prod.snd)).length + 2 ≤ fuel := by omega
    have reads := read_intercalate isEmpty takesItems areBlanks enoughItems [] rest
    split
    · next closing =>
      rw [items?_bracket closing] at reads
      contradiction
    · rw [items?_congr (skipBlanks_skipBlanks _), reads]
      rfl

theorem quoted?_of_spellsName {name : Option String} (spells : SpellsName name text)
    (rest : List Char) :
    ∃ left, quoted? (skipBlanks (text ++ rest)) = some (name, left) ∧
      skipBlanks left = skipBlanks rest := by
  rcases spells with ⟨before, quotes, after, startsBlank, spells, endsBlank, rfl⟩
  have reads := quoted?_of_spellsQuoted spells (after ++ rest)
  refine ⟨after ++ rest, ?_, skipBlanks_append endsBlank rest⟩
  rw [List.append_assoc, List.append_assoc, skipBlanks_append startsBlank, ← reads]
  cases spells with
  | quotes _ => rw [List.cons_append, List.cons_append, skipBlanks_cons (by decide)]

section Fields

variable {field : FieldText} {taken : List (Document (Option Scalar) × Document (Option Scalar))}

/-- Whether the name and the value of a field are read. -/
def FieldText.IsRead (field : FieldText) : Prop :=
  SpellsName field.name field.nameText ∧ Json.IsRead field.value field.valueText

theorem FieldText.IsRead.exists_reads (isRead : field.IsRead)
    (enough : 2 * field.text.length ≤ fuel) (follows : FollowsScalar rest) :
    ∃ afterName left, quoted? (skipBlanks (field.text ++ rest)) = some (field.name, afterName) ∧
      skipBlanks afterName = ':' :: (field.valueText ++ rest) ∧
      document? fuel (field.valueText ++ rest) = some (field.value, left) ∧
      skipBlanks left = skipBlanks rest := by
  rcases isRead with ⟨spellsName, valueIsRead⟩
  simp only [FieldText.text, List.length_append, List.length_cons] at enough
  rcases valueIsRead fuel rest (by omega) follows with ⟨left, readsValue, same⟩
  rcases quoted?_of_spellsName spellsName (':' :: (field.valueText ++ rest)) with
    ⟨afterName, readsName, colon⟩
  rw [skipBlanks_cons (by decide)] at colon
  refine ⟨afterName, left, ?_, colon, readsValue, same⟩
  rwa [FieldText.text, List.append_assoc, List.cons_append]

theorem takesPart_entries? (isRead : field.IsRead) :
    TakesPart entries? '\x7d' field.entry field.text where
  comma enough taken rest := by
    rcases isRead.exists_reads enough (followsScalar_cons ',' (by simp) rest) with
      ⟨afterName, left, readsName, colon, readsValue, same⟩
    rw [skipBlanks_cons (by decide)] at same
    simp [entries?, readsName, colon, readsValue, same, FieldText.entry]
  closing enough areBlanks taken rest := by
    have follows := (followsScalar_cons '\x7d' (by simp) rest).append areBlanks
    rcases isRead.exists_reads enough follows with
      ⟨afterName, left, readsName, colon, readsValue, same⟩
    rw [skipBlanks_append areBlanks, skipBlanks_cons (by decide)] at same
    simp [entries?, readsName, colon, readsValue, same, FieldText.entry]

theorem entries?_brace (closing : skipBlanks text = '\x7d' :: rest) :
    entries? fuel taken text = none := by
  cases fuel with
  | zero => rfl
  | succ fuel =>
      simp only [entries?, closing]
      rfl

theorem isRead_fields {fields : List FieldText} (areRead : ∀ field ∈ fields, field.IsRead)
    (areBlanks : IsBlank blanks) :
    IsRead (.fields (fields.map FieldText.entry))
      ('\x7b' :: [','].intercalate (fields.map FieldText.text) ++ blanks ++ ['\x7d']) := by
  intro fuel rest enough _
  obtain ⟨fuel, rfl⟩ : ∃ less, fuel = less + 1 := ⟨fuel - 1, by simp at enough; omega⟩
  refine ⟨rest, ?_, rfl⟩
  simp only [List.cons_append, List.append_assoc, List.nil_append, List.length_append,
    List.length_cons, List.length_nil] at enough ⊢
  simp only [document?, skipBlanks_cons (by decide : isBlank '\x7b' = false)]
  by_cases isEmpty : fields = []
  · subst isEmpty
    simp [skipBlanks_append areBlanks, skipBlanks_cons (by decide : isBlank '\x7d' = false)]
  · let parts := fields.map fun field => (field.entry, field.text)
    have takesParts : ∀ part ∈ parts, TakesPart entries? '\x7d' part.1 part.2 := by
      simp only [parts, List.forall_mem_map]
      exact fun field isField => takesPart_entries? (areRead field isField)
    have texts : parts.map Prod.snd = fields.map FieldText.text := List.map_map
    have entries : parts.map Prod.fst = fields.map FieldText.entry := List.map_map
    have enoughParts : 2 * ([','].intercalate (parts.map Prod.snd)).length + 2 ≤ fuel := by
      rw [texts]
      omega
    have reads :=
      read_intercalate (by simpa [parts] using isEmpty) takesParts areBlanks enoughParts [] rest
    rw [texts, entries] at reads
    split
    · next closing =>
      rw [entries?_brace closing] at reads
      contradiction
    · rw [entries?_congr (skipBlanks_skipBlanks _), reads]
      rfl

end Fields

/-! ## Scalars and blanks -/

theorem isRead_scalar {value : Option Scalar} (spells : SpellsScalar value text) :
    IsRead (.scalar value) text := by
  intro fuel rest enough follows
  have reads := scalar?_of_spellsScalar spells follows
  rcases spells.exists_eq_cons with ⟨head, tail, rfl, noBlank, noList, noFields⟩
  obtain ⟨fuel, rfl⟩ : ∃ less, fuel = less + 1 := ⟨fuel - 1, by simp at enough; omega⟩
  refine ⟨rest, ?_, rfl⟩
  simp only [List.cons_append] at reads ⊢
  simp only [document?, skipBlanks_cons noBlank]
  split
  · simp_all
  · simp_all
  · rw [reads]
    rfl

theorem isRead_padded {before after : List Char} (startsBlank : IsBlank before)
    (isRead : IsRead document text) (endsBlank : IsBlank after) :
    IsRead document (before ++ text ++ after) := by
  intro fuel rest enough follows
  simp only [List.length_append] at enough
  rcases isRead fuel (after ++ rest) (by omega) (follows.append endsBlank) with ⟨left, reads, same⟩
  refine ⟨left, ?_, same.trans (skipBlanks_append endsBlank rest)⟩
  rw [List.append_assoc, List.append_assoc, document?_congr (skipBlanks_append startsBlank _),
    reads]

end Parts

/-- Every text that spells a document is read as that document. -/
theorem Spells.isRead {document : Document (Option Scalar)} {text : List Char}
    (spells : Spells document text) : IsRead document text := by
  induction spells with
  | scalar spells => exact isRead_scalar spells
  | list _ areBlanks areRead => exact isRead_list areRead areBlanks
  | fields spellsNames _ areBlanks areRead =>
      exact isRead_fields
        (fun field isField => ⟨spellsNames field isField, areRead field isField⟩) areBlanks
  | padded startsBlank _ endsBlank isRead => exact isRead_padded startsBlank isRead endsBlank

/-- The grammar tells what the reader returns. -/
theorem parse?_of_spells {document : Document (Option Scalar)} {text : List Char}
    (spells : Spells document text) : parse? text = some document := by
  rcases spells.isRead (2 * text.length + 2) [] (by omega) followsScalar_nil with
    ⟨left, reads, same⟩
  have noMore : skipBlanks left = [] := same
  rw [List.append_nil] at reads
  simp [parse?, reads, noMore]

end Json

end Reckoner
