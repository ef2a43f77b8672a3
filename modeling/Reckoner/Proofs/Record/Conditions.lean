import Mathlib.Data.List.Forall2
import Reckoner.Proofs.Calendar.DateText
import Reckoner.Proofs.Json.Written
import Reckoner.Proofs.Record.Fields
import Reckoner.Record.Conditions

/-!
# Records of conditions are read

What may be written in each field of conditions, and which fields hold their default, is told
without the reader, down to the dated amounts of a deposit. Every record that is arranged from these
fields is read as the conditions. The record that is written for them is one of these.

A float is read quickly and not exactly, so not every float is read back from its shortest text.
Conditions are read back if their floats are.
-/

namespace Reckoner

namespace Record

open Json (dialect)

/-! ## Parts -/

/-- Whether the text of a float is read as that float. What is no finite number is written as
`null`, which is read as no float. -/
def Survives (value : Float) : Prop := (Json.Scalar.ofFloat value).real? = some value

instance (value : Float) : Decidable (Survives value) :=
  inferInstanceAs (Decidable ((Json.Scalar.ofFloat value).real? = some value))

example : Survives 0.1 ∧ ¬ Survives 0.09090909090909091 := by decide +kernel

/-- Choices with names that tell them apart. -/
class LawfulChoice (α : Type) [Choice α] : Prop where
  ofName?_name (value : α) : Choice.ofName? (Choice.name value) = some value

instance : LawfulChoice TermUnit := ⟨fun value => by cases value <;> rfl⟩

instance : LawfulChoice Loan.TermUnit := ⟨fun value => by cases value <;> rfl⟩

instance : LawfulChoice Loan.Amortization := ⟨fun value => by cases value <;> rfl⟩

instance : LawfulChoice Deposit.PayoutFrequency := ⟨fun value => by cases value <;> rfl⟩

instance : LawfulChoice Deposit.Recurrence := ⟨fun value => by cases value <;> rfl⟩

/-- The document of a scalar. -/
def ofScalar (value : Json.Scalar) : Document (Option Json.Scalar) := .scalar (some value)

theorem real_ofFloat {value : Float} (survives : Survives value) :
    real dialect (ofScalar (.ofFloat value)) = some value := survives

theorem natural_ofNat {value : Nat} (fits : value < Nat.pow 2 32) :
    natural dialect (ofScalar (.ofNat value)) = some value := by
  have reads : (Json.Scalar.ofNat value).natural? = some value := by
    simp [Json.Scalar.ofNat, Json.Scalar.natural?, Json.Number.toNat?, Json.Number.ofNat,
      Json.Number.isWhole, DigitRun.value_ofNat]
  simp [natural, scalar, ofScalar, dialect, reads, fits]

theorem flag_ofBool (value : Bool) : flag dialect (ofScalar (.flag value)) = some value := rfl

theorem choice_name {α : Type} [Choice α] [LawfulChoice α] (value : α) :
    choice dialect (ofScalar (.text (Choice.name value))) = some value :=
  LawfulChoice.ofName?_name value

theorem date_text (value : Date) :
    date dialect (ofScalar (.text (String.ofList value.text))) = some value := by
  simp [date, scalar, ofScalar, dialect, Json.Scalar.text?, Date.ofText?_text]

/-- The floats among the conditions of a loan. -/
def loanFloats (conditions : Loan.Conditions Float) : List Float :=
  [conditions.sum, conditions.rate]

/-- The floats among the conditions of a deposit. -/
def depositFloats (conditions : Deposit.Conditions Float) : List Float :=
  [conditions.sum, conditions.rate, conditions.taxRate, conditions.keyRate,
    conditions.nonTaxableRemainder] ++
    (conditions.funds ++ conditions.withdrawals).map fun transaction => transaction.entry.amount

/-! ## Records -/

/-- A field with a scalar. -/
def scalarField (name : String) (value : Json.Scalar) (mayBeLeftOut : Prop) :
    Field (Option Json.Scalar) :=
  ⟨name, fun document => document = ofScalar value, mayBeLeftOut⟩

/-- Whether a document is written for fields, with a name for every slot. -/
def IsRecord (fields : List (Field (Option Json.Scalar)))
    (document : Document (Option Json.Scalar)) : Prop :=
  ∃ slots, Arranges fields slots ∧
    document = .fields (slots.map fun slot => (ofScalar (.text slot.1), slot.2))

/-- The fields that are written for the conditions of a loan. -/
def loanFields (conditions : Loan.Conditions Float) : List (Field (Option Json.Scalar)) := [
  scalarField "sum" (.ofFloat conditions.sum) False,
  scalarField "rate" (.ofFloat conditions.rate) False,
  scalarField "term" (.ofNat conditions.term) False,
  scalarField "term_unit" (.text (Choice.name conditions.termUnit)) (conditions.termUnit = .month),
  scalarField "kind" (.text (Choice.name conditions.amortization))
    (conditions.amortization = .annuity)]

/-- The fields that are written for a dated amount. -/
def entryFields (entry : Deposit.Entry Float) : List (Field (Option Json.Scalar)) := [
  scalarField "date" (.text (String.ofList entry.date.text)) False,
  scalarField "amount" (.ofFloat entry.amount) False]

/-- The fields that are written for a transaction. -/
def transactionFields (transaction : Deposit.Transaction Float) :
    List (Field (Option Json.Scalar)) := [
  ⟨"payout", IsRecord (entryFields transaction.entry), False⟩,
  scalarField "frequency" (.text (Choice.name transaction.recurrence))
    (transaction.recurrence = .once)]

/-- Whether a document lists what is written for transactions. -/
def AreTransactions (transactions : List (Deposit.Transaction Float))
    (document : Document (Option Json.Scalar)) : Prop :=
  ∃ items, List.Forall₂ (fun transaction item => IsRecord (transactionFields transaction) item)
    transactions items ∧ document = .list items

/-- A field with a list of transactions, which may be left out if there are none. -/
def transactionsField (name : String) (transactions : List (Deposit.Transaction Float)) :
    Field (Option Json.Scalar) :=
  ⟨name, AreTransactions transactions, transactions = []⟩

/-- The fields that are written for the conditions of a deposit. -/
def depositFields (conditions : Deposit.Conditions Float) : List (Field (Option Json.Scalar)) := [
  scalarField "sum" (.ofFloat conditions.sum) False,
  scalarField "rate" (.ofFloat conditions.rate) False,
  scalarField "term" (.ofNat conditions.term) False,
  scalarField "term_unit" (.text (Choice.name conditions.termUnit)) (conditions.termUnit = .month),
  scalarField "capitalization" (.flag conditions.capitalization)
    (conditions.capitalization = false),
  scalarField "payout_frequency" (.text (Choice.name conditions.payoutFrequency))
    (conditions.payoutFrequency = .monthly),
  scalarField "tax_rate" (.ofFloat conditions.taxRate) (conditions.taxRate = 0),
  scalarField "key_rate" (.ofFloat conditions.keyRate) (conditions.keyRate = 0),
  scalarField "non_taxable_remainder" (.ofFloat conditions.nonTaxableRemainder)
    (conditions.nonTaxableRemainder = 0),
  scalarField "start_date" (.text (String.ofList conditions.startDate.text)) False,
  transactionsField "funds" conditions.funds,
  transactionsField "withdrawals" conditions.withdrawals]

section Reading

variable {fields : List (Field (Option Json.Scalar))} {slots : Slots (Option Json.Scalar)}
  {document : Document (Option Json.Scalar)} {α : Type} {name : String} {value : Json.Scalar}
  {read : Part (Option Json.Scalar) α} {result : α}

theorem IsRecord.exists_slots (isRecord : IsRecord fields document)
    (once : (fields.map Field.name).Nodup) :
    ∃ slots, Arranges fields slots ∧
      slots? dialect (fields.map Field.name) document = some slots := by
  rcases isRecord with ⟨slots, arranges, rfl⟩
  exact ⟨slots, arranges, arranges.slots? once (fun name => ofScalar (.text name)) fun _ => rfl⟩

theorem required_scalarField (arranges : Arranges fields slots)
    (once : (fields.map Field.name).Nodup) (isField : scalarField name value False ∈ fields)
    (reads : read (ofScalar value) = some result) :
    required slots name read = some result :=
  arranges.required once isField fun _ isWritten => isWritten ▸ reads

theorem optional_scalarField {mayBeLeftOut : Prop} {otherwise : α}
    (arranges : Arranges fields slots) (once : (fields.map Field.name).Nodup)
    (isField : scalarField name value mayBeLeftOut ∈ fields)
    (reads : read (ofScalar value) = some result) (isDefault : mayBeLeftOut → result = otherwise) :
    optional slots name read otherwise = some result :=
  arranges.optional once isField (fun _ isWritten => isWritten ▸ reads) isDefault

end Reading

/-! ## Reading records -/

section Records

variable {document : Document (Option Json.Scalar)}

/-- A dated amount is read from every document that is written for it. -/
theorem entry_of_isRecord {entry : Deposit.Entry Float} (survives : Survives entry.amount)
    (isRecord : IsRecord (entryFields entry) document) :
    Record.entry dialect document = some entry := by
  have once : ((entryFields entry).map Field.name).Nodup := (by decide : entryNames.Nodup)
  rcases isRecord.exists_slots once with ⟨slots, arranges, readsSlots⟩
  have date : required slots "date" (date dialect) = some entry.date :=
    required_scalarField arranges once (by simp [entryFields]) (date_text entry.date)
  have amount : required slots "amount" (real dialect) = some entry.amount :=
    required_scalarField arranges once (by simp [entryFields]) (real_ofFloat survives)
  change slots? dialect entryNames document = some slots at readsSlots
  exact bind_of_eq_some readsSlots <| bind_of_eq_some date <| bind_of_eq_some amount rfl

/-- A transaction is read from every document that is written for it. -/
theorem transaction_of_isRecord {transaction : Deposit.Transaction Float}
    (survives : Survives transaction.entry.amount)
    (isRecord : IsRecord (transactionFields transaction) document) :
    Record.transaction dialect document = some transaction := by
  have once : ((transactionFields transaction).map Field.name).Nodup :=
    (by decide : transactionNames.Nodup)
  rcases isRecord.exists_slots once with ⟨slots, arranges, readsSlots⟩
  have entry : required slots "payout" (Record.entry dialect) = some transaction.entry :=
    arranges.required once List.mem_cons_self fun _ isEntry => entry_of_isRecord survives isEntry
  have recurrence :
      optional slots "frequency" (choice dialect) default = some transaction.recurrence :=
    optional_scalarField arranges once (by simp [transactionFields])
      (choice_name transaction.recurrence)
      fun isOnce : transaction.recurrence = .once => isOnce
  change slots? dialect transactionNames document = some slots at readsSlots
  exact bind_of_eq_some readsSlots <| bind_of_eq_some entry <| bind_of_eq_some recurrence rfl

/-- Transactions are read from every document that lists what is written for them. -/
theorem listOf_of_areTransactions {transactions : List (Deposit.Transaction Float)}
    (survive : ∀ transaction ∈ transactions, Survives transaction.entry.amount)
    (areTransactions : AreTransactions transactions document) :
    listOf dialect (Record.transaction dialect) document = some transactions := by
  rcases areTransactions with ⟨items, areRecords, rfl⟩
  simp only [listOf]
  induction areRecords with
  | nil => rfl
  | cons isRecord _ ih =>
      rcases List.forall_mem_cons.mp survive with ⟨survives, othersSurvive⟩
      simp [transaction_of_isRecord survives isRecord, ih othersSurvive]

theorem optional_transactionsField {fields : List (Field (Option Json.Scalar))}
    {slots : Slots (Option Json.Scalar)} {name : String}
    {transactions : List (Deposit.Transaction Float)} (arranges : Arranges fields slots)
    (once : (fields.map Field.name).Nodup) (isField : transactionsField name transactions ∈ fields)
    (survive : ∀ transaction ∈ transactions, Survives transaction.entry.amount) :
    optional slots name (listOf dialect (Record.transaction dialect)) [] = some transactions :=
  arranges.optional once isField
    (fun _ areTransactions => listOf_of_areTransactions survive areTransactions) id

/-- The conditions of a loan are read from every document that is written for them. -/
theorem loan_of_isRecord {conditions : Loan.Conditions Float}
    (survive : ∀ value ∈ loanFloats conditions, Survives value)
    (fits : conditions.term < Nat.pow 2 32) (isRecord : IsRecord (loanFields conditions) document) :
    Record.loan dialect document = some conditions := by
  have once : ((loanFields conditions).map Field.name).Nodup := (by decide : loanNames.Nodup)
  rcases isRecord.exists_slots once with ⟨slots, arranges, readsSlots⟩
  have readsReal (value) (isFloat : value ∈ loanFloats conditions) :=
    real_ofFloat (survive value isFloat)
  have sum : required slots "sum" (real dialect) = some conditions.sum :=
    required_scalarField arranges once (by simp [loanFields]) (readsReal _ (by simp [loanFloats]))
  have rate : required slots "rate" (real dialect) = some conditions.rate :=
    required_scalarField arranges once (by simp [loanFields]) (readsReal _ (by simp [loanFloats]))
  have term : required slots "term" (natural dialect) = some conditions.term :=
    required_scalarField arranges once (by simp [loanFields]) (natural_ofNat fits)
  have termUnit : optional slots "term_unit" (choice dialect) default = some conditions.termUnit :=
    optional_scalarField arranges once (by simp [loanFields]) (choice_name conditions.termUnit)
      fun isMonth : conditions.termUnit = .month => isMonth
  have amortization :
      optional slots "kind" (choice dialect) default = some conditions.amortization :=
    optional_scalarField arranges once (by simp [loanFields]) (choice_name conditions.amortization)
      fun isAnnuity : conditions.amortization = .annuity => isAnnuity
  change slots? dialect loanNames document = some slots at readsSlots
  exact bind_of_eq_some readsSlots <| bind_of_eq_some sum <| bind_of_eq_some rate <|
    bind_of_eq_some term <| bind_of_eq_some termUnit <| bind_of_eq_some amortization rfl

/-- The conditions of a deposit are read from every document that is written for them. -/
theorem deposit_of_isRecord {conditions : Deposit.Conditions Float}
    (survive : ∀ value ∈ depositFloats conditions, Survives value)
    (fits : conditions.term < Nat.pow 2 32)
    (isRecord : IsRecord (depositFields conditions) document) :
    Record.deposit dialect document = some conditions := by
  have once : ((depositFields conditions).map Field.name).Nodup := (by decide : depositNames.Nodup)
  rcases isRecord.exists_slots once with ⟨slots, arranges, readsSlots⟩
  have fundsSurvive : ∀ transaction ∈ conditions.funds, Survives transaction.entry.amount :=
    fun transaction isFund => survive _ (by
      simp only [depositFloats, List.map_append, List.mem_append]
      exact .inr (.inl (List.mem_map_of_mem isFund)))
  have withdrawalsSurvive :
      ∀ transaction ∈ conditions.withdrawals, Survives transaction.entry.amount :=
    fun transaction isWithdrawal => survive _ (by
      simp only [depositFloats, List.map_append, List.mem_append]
      exact .inr (.inr (List.mem_map_of_mem isWithdrawal)))
  have readsReal (value) (isFloat : value ∈ depositFloats conditions) :=
    real_ofFloat (survive value isFloat)
  have sum : required slots "sum" (real dialect) = some conditions.sum :=
    required_scalarField arranges once (by simp [depositFields])
      (readsReal _ (by simp [depositFloats]))
  have rate : required slots "rate" (real dialect) = some conditions.rate :=
    required_scalarField arranges once (by simp [depositFields])
      (readsReal _ (by simp [depositFloats]))
  have term : required slots "term" (natural dialect) = some conditions.term :=
    required_scalarField arranges once (by simp [depositFields]) (natural_ofNat fits)
  have termUnit : optional slots "term_unit" (choice dialect) default = some conditions.termUnit :=
    optional_scalarField arranges once (by simp [depositFields]) (choice_name conditions.termUnit)
      fun isMonth : conditions.termUnit = .month => isMonth
  have capitalization :
      optional slots "capitalization" (flag dialect) false = some conditions.capitalization :=
    optional_scalarField arranges once (by simp [depositFields])
      (flag_ofBool conditions.capitalization)
      fun isOff : conditions.capitalization = false => isOff
  have payoutFrequency :
      optional slots "payout_frequency" (choice dialect) default =
        some conditions.payoutFrequency :=
    optional_scalarField arranges once (by simp [depositFields])
      (choice_name conditions.payoutFrequency)
      fun isMonthly : conditions.payoutFrequency = .monthly => isMonthly
  have taxRate : optional slots "tax_rate" (real dialect) 0 = some conditions.taxRate :=
    optional_scalarField arranges once (by simp [depositFields])
      (readsReal _ (by simp [depositFloats]))
      fun isZero : conditions.taxRate = 0 => isZero
  have keyRate : optional slots "key_rate" (real dialect) 0 = some conditions.keyRate :=
    optional_scalarField arranges once (by simp [depositFields])
      (readsReal _ (by simp [depositFloats]))
      fun isZero : conditions.keyRate = 0 => isZero
  have nonTaxableRemainder :
      optional slots "non_taxable_remainder" (real dialect) 0 =
        some conditions.nonTaxableRemainder :=
    optional_scalarField arranges once (by simp [depositFields])
      (readsReal _ (by simp [depositFloats]))
      fun isZero : conditions.nonTaxableRemainder = 0 => isZero
  have startDate : required slots "start_date" (date dialect) = some conditions.startDate :=
    required_scalarField arranges once (by simp [depositFields]) (date_text conditions.startDate)
  have funds :
      optional slots "funds" (listOf dialect (Record.transaction dialect)) [] =
        some conditions.funds :=
    optional_transactionsField arranges once (by simp [depositFields]) fundsSurvive
  have withdrawals :
      optional slots "withdrawals" (listOf dialect (Record.transaction dialect)) [] =
        some conditions.withdrawals :=
    optional_transactionsField arranges once (by simp [depositFields]) withdrawalsSurvive
  change slots? dialect depositNames document = some slots at readsSlots
  exact bind_of_eq_some readsSlots <| bind_of_eq_some sum <| bind_of_eq_some rate <|
    bind_of_eq_some term <| bind_of_eq_some termUnit <| bind_of_eq_some capitalization <|
    bind_of_eq_some payoutFrequency <| bind_of_eq_some taxRate <| bind_of_eq_some keyRate <|
    bind_of_eq_some nonTaxableRemainder <| bind_of_eq_some startDate <| bind_of_eq_some funds <|
    bind_of_eq_some withdrawals rfl

end Records

/-! ## Written records -/

section Written

variable {fields : List (Field (Option Json.Scalar))}

/-- The slot of a written field. -/
def slotOf (entry : String × Document Json.Scalar) : String × Document (Option Json.Scalar) :=
  (entry.1, Json.asRead entry.2)

theorem isRecord_of_perm {entries kept : List (String × Document Json.Scalar)}
    (unknown : List (String × Document Json.Scalar)) (keeps : Keeps fields (kept.map slotOf))
    (areUnknown : ∀ entry ∈ unknown, entry.1 ∉ fields.map Field.name)
    (permuted : entries.Perm (kept ++ unknown)) :
    IsRecord fields (Json.asRead (Json.ofFields entries)) := by
  refine ⟨entries.map slotOf, ⟨kept.map slotOf, unknown.map slotOf, keeps, ?_, ?_⟩, ?_⟩
  · rw [List.forall_mem_map]
    exact areUnknown
  · rw [← List.map_append]
    exact permuted.map slotOf
  · simp [Json.asRead_ofFields, ofScalar, slotOf]

theorem isRecord_of_keeps {entries : List (String × Document Json.Scalar)}
    (keeps : Keeps fields (entries.map slotOf)) :
    IsRecord fields (Json.asRead (Json.ofFields entries)) :=
  isRecord_of_perm [] keeps (by simp) (by simp)

theorem isRecord_ofEntry (entry : Deposit.Entry Float) :
    IsRecord (entryFields entry) (Json.asRead (Json.ofEntry entry)) :=
  isRecord_of_keeps (.written rfl (.written rfl .nil))

theorem isRecord_ofTransaction (transaction : Deposit.Transaction Float) :
    IsRecord (transactionFields transaction) (Json.asRead (Json.ofTransaction transaction)) :=
  isRecord_of_keeps (.written (isRecord_ofEntry transaction.entry) (.written rfl .nil))

theorem areTransactions_ofList (transactions : List (Deposit.Transaction Float)) :
    AreTransactions transactions (Json.asRead (Json.ofList Json.ofTransaction transactions)) := by
  refine ⟨transactions.map fun transaction => Json.asRead (Json.ofTransaction transaction), ?_, ?_⟩
  · rw [List.forall₂_map_right_iff, List.forall₂_same]
    exact fun transaction _ => isRecord_ofTransaction transaction
  · simp [Json.ofList, Json.asRead, Json.itemsAsRead_eq_map, Function.comp_def]

theorem isRecord_ofLoan (conditions : Loan.Conditions Float) :
    IsRecord (loanFields conditions) (Json.asRead (Json.ofLoan conditions)) :=
  isRecord_of_keeps (.written rfl (.written rfl (.written rfl (.written rfl (.written rfl .nil)))))

theorem isRecord_ofDeposit (conditions : Deposit.Conditions Float) :
    IsRecord (depositFields conditions) (Json.asRead (Json.ofDeposit conditions)) := by
  refine isRecord_of_keeps ?_
  repeat' apply Keeps.written
  any_goals rfl
  · exact areTransactions_ofList conditions.funds
  · exact areTransactions_ofList conditions.withdrawals
  · exact .nil

end Written

end Record

end Reckoner
