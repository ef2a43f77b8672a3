import Mathlib.Data.List.Perm.Basic
import Reckoner.Record.Reading

/-!
# Fields of records are found

A record can be written with its fields in any order, with unknown fields between them, and without
fields that hold their defaults. However it is arranged, no known name occurs twice and every field
is found under its name. The proof looks at one name at a time: at most one slot has it, so there is
no order to be lost.
-/

namespace Reckoner

namespace Record

variable {Scalar : Type}

/-- What may be written for a field of a record. -/
structure Field (Scalar : Type) where
  name : String
  /-- Whether a document is written for the value of the field. -/
  IsWritten : Document Scalar → Prop
  /-- Whether the field has a default and holds it. -/
  MayBeLeftOut : Prop

/-- The fields of a record as they are written in order, some of them left out. -/
inductive Keeps : List (Field Scalar) → Slots Scalar → Prop where
  | nil : Keeps [] []
  | written {field : Field Scalar} {fields : List (Field Scalar)} {document : Document Scalar}
      {slots : Slots Scalar} (isWritten : field.IsWritten document) (others : Keeps fields slots) :
      Keeps (field :: fields) ((field.name, document) :: slots)
  | leftOut {field : Field Scalar} {fields : List (Field Scalar)} {slots : Slots Scalar}
      (mayBeLeftOut : field.MayBeLeftOut) (others : Keeps fields slots) :
      Keeps (field :: fields) slots

/-- Whether slots are those of the fields that are kept and of unknown names, in any order. -/
def Arranges (fields : List (Field Scalar)) (slots : Slots Scalar) : Prop :=
  ∃ kept unknown, Keeps fields kept ∧ (∀ slot ∈ unknown, slot.1 ∉ fields.map Field.name) ∧
    slots.Perm (kept ++ unknown)

/-- The slots of a name. -/
def named (name : String) (slots : Slots Scalar) : Slots Scalar :=
  slots.filter fun slot => slot.1 == name

/-- Whether the only slot of a field is written for it, or the field may be left out and is. -/
def Field.IsFoundIn (field : Field Scalar) (slots : Slots Scalar) : Prop :=
  (∃ document, field.IsWritten document ∧ named field.name slots = [(field.name, document)]) ∨
    (field.MayBeLeftOut ∧ named field.name slots = [])

section Found

variable {field : Field Scalar} {fields : List (Field Scalar)} {slots kept : Slots Scalar}
  {name : String}

theorem lookup_eq_head?_named (name : String) (slots : Slots Scalar) :
    slots.lookup name = (named name slots).head?.map Prod.snd := by
  induction slots with
  | nil => rfl
  | cons slot slots ih =>
      rcases slot with ⟨key, document⟩
      by_cases isKey : name = key
      · subst isKey
        simp [named]
      · have differs : key ≠ name := fun same => isKey same.symm
        have isOther : (name == key) = false := beq_eq_false_iff_ne.mpr isKey
        simpa [named, List.lookup_cons, isOther, differs] using ih

theorem named_eq_nil (unknown : ∀ slot ∈ slots, slot.1 ≠ name) : named name slots = [] := by
  simpa [named] using unknown

theorem Keeps.exists_field (keeps : Keeps fields kept) :
    ∀ slot ∈ kept, slot.1 ∈ fields.map Field.name := by
  induction keeps with
  | nil => simp
  | written _ _ ih =>
      intro slot isSlot
      rcases List.mem_cons.mp isSlot with rfl | isOther
      · exact List.mem_cons_self
      · exact List.mem_cons_of_mem _ (ih slot isOther)
  | leftOut _ _ ih => exact fun slot isSlot => List.mem_cons_of_mem _ (ih slot isSlot)

/-- Where no two fields have one name, every field is found: no other slot has the name of the first
one. -/
theorem Keeps.isFoundIn (keeps : Keeps fields kept) (once : (fields.map Field.name).Nodup)
    (isField : field ∈ fields) : field.IsFoundIn kept := by
  induction keeps with
  | nil => contradiction
  | @written first others document slots isWritten keeps ih =>
      rcases List.nodup_cons.mp once with ⟨isNew, othersOnce⟩
      rcases List.mem_cons.mp isField with rfl | isOther
      · have noOther : named field.name slots = [] := named_eq_nil fun slot isSlot same =>
          isNew (same ▸ keeps.exists_field slot isSlot)
        exact .inl ⟨document, isWritten, by simpa [named] using noOther⟩
      · have differs : first.name ≠ field.name := fun same =>
          isNew (same ▸ List.mem_map_of_mem isOther)
        simpa [Field.IsFoundIn, named, differs] using ih othersOnce isOther
  | @leftOut first others slots mayBeLeftOut keeps ih =>
      rcases List.nodup_cons.mp once with ⟨isNew, othersOnce⟩
      rcases List.mem_cons.mp isField with rfl | isOther
      · exact .inr ⟨mayBeLeftOut, named_eq_nil fun slot isSlot same =>
          isNew (same ▸ keeps.exists_field slot isSlot)⟩
      · exact ih othersOnce isOther

/-- However the slots are arranged, every field is found. -/
theorem Arranges.isFoundIn (arranges : Arranges fields slots) (once : (fields.map Field.name).Nodup)
    (isField : field ∈ fields) : field.IsFoundIn slots := by
  rcases arranges with ⟨kept, unknown, keeps, areUnknown, permuted⟩
  have noUnknown : named field.name unknown = [] := named_eq_nil fun slot isSlot same =>
    areUnknown slot isSlot (same ▸ List.mem_map_of_mem isField)
  have sameSlots : (named field.name slots).Perm (named field.name kept) := by
    have filtered := permuted.filter fun slot => slot.1 == field.name
    rw [List.filter_append] at filtered
    change (named field.name slots).Perm
      (named field.name kept ++ named field.name unknown) at filtered
    rwa [noUnknown, List.append_nil] at filtered
  rcases keeps.isFoundIn once isField with ⟨document, isWritten, isKept⟩ | ⟨mayBeLeftOut, isMissing⟩
  · rw [isKept] at sameSlots
    exact .inl ⟨document, isWritten, List.perm_singleton.mp sameSlots⟩
  · rw [isMissing] at sameSlots
    exact .inr ⟨mayBeLeftOut, sameSlots.eq_nil⟩

/-- No field is named twice. -/
theorem Arranges.namesOnce (arranges : Arranges fields slots)
    (once : (fields.map Field.name).Nodup) :
    Record.namesOnce (fields.map Field.name) slots = true := by
  simp only [Record.namesOnce, List.all_map, List.all_eq_true, Function.comp_apply,
    decide_eq_true_eq]
  intro field isField
  rcases arranges.isFoundIn once isField with ⟨document, -, found⟩ | ⟨-, missing⟩
  · exact Nat.le_of_eq (congrArg List.length found)
  · exact Nat.le_trans (Nat.le_of_eq (congrArg List.length missing)) (Nat.zero_le 1)

end Found

section Reading

variable {α : Type} {fields : List (Field Scalar)} {slots : Slots Scalar} {name : String}
  {IsWritten : Document Scalar → Prop} {MayBeLeftOut : Prop} {read : Part Scalar α} {value : α}

/-- A field that is never left out is read. -/
theorem Arranges.required (arranges : Arranges fields slots) (once : (fields.map Field.name).Nodup)
    (isField : ⟨name, IsWritten, False⟩ ∈ fields)
    (reads : ∀ document, IsWritten document → read document = some value) :
    Record.required slots name read = some value := by
  rcases arranges.isFoundIn once isField with ⟨document, isWritten, found⟩ | ⟨mayBeLeftOut, -⟩
  · simp [Record.required, lookup_eq_head?_named, found, reads document isWritten]
  · contradiction

/-- A field that is left out only for its default is read. -/
theorem Arranges.optional (arranges : Arranges fields slots) (once : (fields.map Field.name).Nodup)
    {otherwise : α} (isField : ⟨name, IsWritten, MayBeLeftOut⟩ ∈ fields)
    (reads : ∀ document, IsWritten document → read document = some value)
    (isDefault : MayBeLeftOut → value = otherwise) :
    Record.optional slots name read otherwise = some value := by
  rcases arranges.isFoundIn once isField with ⟨document, isWritten, found⟩ | ⟨mayBeLeftOut, missing⟩
  · simp [Record.optional, lookup_eq_head?_named, found, reads document isWritten]
  · simp [Record.optional, lookup_eq_head?_named, missing, isDefault mayBeLeftOut]

/-- The reading of a record goes on with what was read for a part. -/
theorem bind_of_eq_some {β : Type} {part : Option α} {next : α → Option β} {result : β}
    (reads : part = some value) (continues : next value = some result) :
    part >>= next = some result := by
  rw [reads]
  exact continues

theorem mapM_slot? {dialect : Dialect Scalar} {written : String → Document Scalar}
    (reads : ∀ name, name? dialect (written name) = some name) (slots : Slots Scalar) :
    (slots.map fun slot => (written slot.1, slot.2)).mapM (slot? dialect) = some slots := by
  induction slots with
  | nil => rfl
  | cons slot slots ih => simp [slot?, reads, ih]

/-- The slots of a record are those of its document if the names are read. -/
theorem Arranges.slots? {dialect : Dialect Scalar} (arranges : Arranges fields slots)
    (once : (fields.map Field.name).Nodup) (written : String → Document Scalar)
    (reads : ∀ name, name? dialect (written name) = some name) :
    Record.slots? dialect (fields.map Field.name)
      (.fields (slots.map fun slot => (written slot.1, slot.2))) = some slots := by
  simp [Record.slots?, mapM_slot? reads, arranges.namesOnce once]

end Reading

end Record

end Reckoner
