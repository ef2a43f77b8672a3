import Reckoner.Proofs.Json.Written
import Reckoner.Proofs.Record.Conditions

/-!
# Conditions survive their JSON text

Conditions are written as a record with all fields in order. Whoever writes the record by hand may
put the fields in another order, at every level of a deposit, may add fields that are not known, and
may leave out those that hold their default. All these texts are read as the same conditions.
-/

namespace Reckoner

namespace Record

open Json (dialect)

/-! ## Written conditions are JSON -/

theorem isJson_ofEntry (entry : Deposit.Entry Float) : Json.IsJson (Json.ofEntry entry) := by
  refine .fields ?_
  simp only [List.forall_mem_cons]
  exact ⟨.scalar trivial, .scalar (Json.isJson_ofFloat _), by simp⟩

theorem isJson_ofTransaction (transaction : Deposit.Transaction Float) :
    Json.IsJson (Json.ofTransaction transaction) := by
  refine .fields ?_
  simp only [List.forall_mem_cons]
  exact ⟨isJson_ofEntry transaction.entry, .scalar trivial, by simp⟩

theorem isJson_ofTransactions (transactions : List (Deposit.Transaction Float)) :
    Json.IsJson (Json.ofList Json.ofTransaction transactions) := by
  refine .list ?_
  simp only [List.forall_mem_map]
  exact fun transaction _ => isJson_ofTransaction transaction

theorem isJson_ofLoan (conditions : Loan.Conditions Float) :
    Json.IsJson (Json.ofLoan conditions) := by
  refine .fields ?_
  simp only [List.forall_mem_cons]
  exact ⟨.scalar (Json.isJson_ofFloat _), .scalar (Json.isJson_ofFloat _),
    .scalar (Json.isJson_ofNat _), .scalar trivial, .scalar trivial, by simp⟩

theorem isJson_ofDeposit (conditions : Deposit.Conditions Float) :
    Json.IsJson (Json.ofDeposit conditions) := by
  refine .fields ?_
  simp only [List.forall_mem_cons]
  exact ⟨.scalar (Json.isJson_ofFloat _), .scalar (Json.isJson_ofFloat _),
    .scalar (Json.isJson_ofNat _), .scalar trivial, .scalar trivial, .scalar trivial,
    .scalar (Json.isJson_ofFloat _), .scalar (Json.isJson_ofFloat _),
    .scalar (Json.isJson_ofFloat _), .scalar trivial, isJson_ofTransactions conditions.funds,
    isJson_ofTransactions conditions.withdrawals, by simp⟩

theorem spells_compact {document : Document Json.Scalar} (isJson : Json.IsJson document) :
    Json.Spells (Json.asRead document) (Json.compact document) :=
  isJson.spells_write Json.isJson_compact 0

theorem read_of_spells {α : Type} {read : Part (Option Json.Scalar) α} {value : α}
    {document : Document (Option Json.Scalar)} {text : List Char}
    (reads : read document = some value)
    (spells : Json.Spells document text) : (Json.parse? text).bind read = some value := by
  rw [Json.parse?_of_spells spells, Option.bind_some, reads]

/-- Conditions whose floats survive are read back from the text that is written for them. They are
also read from every text of a record that has their fields in any order, at every level, with
unknown fields between them, and without fields that hold their defaults. -/
theorem conditions_survive :
    (∀ conditions : Loan.Conditions Float, (∀ value ∈ loanFloats conditions, Survives value) →
      conditions.term < Nat.pow 2 32 →
        (Json.parse? (Json.compact (Json.ofLoan conditions))).bind (loan dialect) =
            some conditions ∧
          ∀ document text, IsRecord (loanFields conditions) document → Json.Spells document text →
            (Json.parse? text).bind (loan dialect) = some conditions) ∧
    (∀ conditions : Deposit.Conditions Float, (∀ value ∈ depositFloats conditions, Survives value) →
      conditions.term < Nat.pow 2 32 →
        (Json.parse? (Json.compact (Json.ofDeposit conditions))).bind (deposit dialect) =
            some conditions ∧
          ∀ document text, IsRecord (depositFields conditions) document →
            Json.Spells document text →
            (Json.parse? text).bind (deposit dialect) = some conditions) := by
  constructor
  · intro conditions survive fits
    have isRead {document} (isRecord : IsRecord (loanFields conditions) document) :=
      loan_of_isRecord survive fits isRecord
    have spells := spells_compact (isJson_ofLoan conditions)
    exact ⟨read_of_spells (isRead (isRecord_ofLoan conditions)) spells,
      fun _ _ isRecord spells => read_of_spells (isRead isRecord) spells⟩
  · intro conditions survive fits
    have isRead {document} (isRecord : IsRecord (depositFields conditions) document) :=
      deposit_of_isRecord survive fits isRecord
    have spells := spells_compact (isJson_ofDeposit conditions)
    exact ⟨read_of_spells (isRead (isRecord_ofDeposit conditions)) spells,
      fun _ _ isRecord spells => read_of_spells (isRead isRecord) spells⟩

/-- Conditions of a loan none of which is the default. -/
def mortgage : Loan.Conditions Float := ⟨250000.25, 7.5, 20, .year, .differentiated⟩

/-- A fund that is paid in once, before year 0. -/
def singleFund : Deposit.Transaction Float where
  entry := ⟨(Date.ofTriple? (-4) 2 29).get (by decide), 0.1⟩
  recurrence := .once

/-- A fund that is paid in every quarter. -/
def quarterlyFund : Deposit.Transaction Float where
  entry := ⟨(Date.ofTriple? 0 1 31).get (by decide), 1e21⟩
  recurrence := .quarterly

/-- Conditions of a deposit, some of which are the defaults. -/
def ancientDeposit : Deposit.Conditions Float where
  sum := 1000.5
  rate := 8.25
  term := 12
  termUnit := .month
  capitalization := true
  payoutFrequency := .monthly
  taxRate := 13
  keyRate := 0
  nonTaxableRemainder := 0
  startDate := singleFund.entry.date
  funds := [singleFund, quarterlyFund]
  withdrawals := []

/-- A dated amount with its fields the other way round and one that is not known. -/
def reversedEntry (entry : Deposit.Entry Float) : Document Json.Scalar :=
  Json.ofFields ([("date", Json.ofDate entry.date), ("amount", Json.ofFloat entry.amount)] ++
    [("paid", Json.ofBool true)]).reverse

/-- A transaction with its fields the other way round and one that is not known. -/
def reversedTransaction (transaction : Deposit.Transaction Float) : Document Json.Scalar :=
  Json.ofFields ([("payout", reversedEntry transaction.entry),
    ("frequency", Json.ofChoice transaction.recurrence)] ++
    [("tag", Json.ofString "\u041f")]).reverse

/-- The conditions with their fields the other way round, without defaults, and with one that is not
known. -/
def reversedDeposit : Document Json.Scalar :=
  Json.ofFields ([("sum", Json.ofFloat ancientDeposit.sum),
    ("rate", Json.ofFloat ancientDeposit.rate), ("term", Json.ofNat ancientDeposit.term),
    ("capitalization", Json.ofBool true), ("tax_rate", Json.ofFloat ancientDeposit.taxRate),
    ("start_date", Json.ofDate ancientDeposit.startDate),
    ("funds", Document.list [Json.ofFields [("payout", reversedEntry singleFund.entry)],
      reversedTransaction quarterlyFund])] ++
    [("note", Document.list [.scalar .null, Json.ofFields []])]).reverse

theorem isRecord_reversedEntry (entry : Deposit.Entry Float) :
    IsRecord (entryFields entry) (Json.asRead (reversedEntry entry)) := by
  refine isRecord_of_perm _ ?_ (by simp [entryFields, scalarField]) (List.reverse_perm _)
  exact .written rfl (.written rfl .nil)

theorem isRecord_reversedTransaction (transaction : Deposit.Transaction Float) :
    IsRecord (transactionFields transaction) (Json.asRead (reversedTransaction transaction)) := by
  refine isRecord_of_perm _ ?_ (by simp [transactionFields, scalarField]) (List.reverse_perm _)
  exact .written (isRecord_reversedEntry transaction.entry) (.written rfl .nil)

theorem isRecord_reversedDeposit :
    IsRecord (depositFields ancientDeposit) (Json.asRead reversedDeposit) := by
  have single : IsRecord (transactionFields singleFund)
      (Json.asRead (Json.ofFields [("payout", reversedEntry singleFund.entry)])) :=
    isRecord_of_keeps (.written (isRecord_reversedEntry singleFund.entry) (.leftOut rfl .nil))
  have quarterly := isRecord_reversedTransaction quarterlyFund
  refine isRecord_of_perm _ ?_ (by simp [depositFields, scalarField, transactionsField])
    (List.reverse_perm _)
  refine .written rfl <| .written rfl <| .written rfl <| .leftOut rfl <| .written rfl <|
    .leftOut rfl <| .written rfl <| .leftOut rfl <| .leftOut rfl <| .written rfl <|
    .written ?_ <| .leftOut rfl .nil
  exact ⟨_, .cons single (.cons quarterly .nil), rfl⟩

theorem isJson_reversedEntry (entry : Deposit.Entry Float) : Json.IsJson (reversedEntry entry) := by
  refine .fields ?_
  simp only [List.mem_reverse, List.forall_mem_append, List.forall_mem_cons]
  exact ⟨⟨.scalar trivial, .scalar (Json.isJson_ofFloat _), by simp⟩, .scalar trivial, by simp⟩

theorem isJson_reversedDeposit : Json.IsJson reversedDeposit := by
  have single : Json.IsJson (Json.ofFields [("payout", reversedEntry singleFund.entry)]) :=
    .fields (by simpa using isJson_reversedEntry singleFund.entry)
  have quarterly : Json.IsJson (reversedTransaction quarterlyFund) := by
    refine .fields ?_
    simp only [List.mem_reverse, List.forall_mem_append, List.forall_mem_cons]
    exact ⟨⟨isJson_reversedEntry _, .scalar trivial, by simp⟩, .scalar trivial, by simp⟩
  have note : Json.IsJson (Document.list [.scalar .null, Json.ofFields []]) :=
    .list (by simpa using ⟨.scalar trivial, .fields (by simp)⟩)
  refine .fields ?_
  simp only [List.mem_reverse, List.forall_mem_append, List.forall_mem_cons]
  exact ⟨⟨.scalar (Json.isJson_ofFloat _), .scalar (Json.isJson_ofFloat _),
    .scalar (Json.isJson_ofNat _), .scalar trivial, .scalar (Json.isJson_ofFloat _),
    .scalar trivial, .list (by simpa using ⟨single, quarterly⟩), by simp⟩, note, by simp⟩

/-- The reversed text is read as the conditions, and so is the text of a loan. -/
theorem conditions_survive_reversed :
    (∀ value ∈ depositFloats ancientDeposit, Survives value) ∧ ancientDeposit.term < Nat.pow 2 32 ∧
      IsRecord (depositFields ancientDeposit) (Json.asRead reversedDeposit) ∧
      Json.Spells (Json.asRead reversedDeposit) (Json.indented reversedDeposit) ∧
      (Json.parse? (Json.indented reversedDeposit)).bind (deposit dialect) = some ancientDeposit ∧
      (∀ value ∈ loanFloats mortgage, Survives value) ∧
      (Json.parse? (Json.compact (Json.ofLoan mortgage))).bind (loan dialect) = some mortgage := by
  have survive : ∀ value ∈ depositFloats ancientDeposit, Survives value := by decide +kernel
  have fits : ancientDeposit.term < Nat.pow 2 32 := by decide
  have spells : Json.Spells (Json.asRead reversedDeposit) (Json.indented reversedDeposit) :=
    isJson_reversedDeposit.spells_write Json.isJson_indented 0
  have isRecord := isRecord_reversedDeposit
  have loanSurvives : ∀ value ∈ loanFloats mortgage, Survives value := by decide +kernel
  have readsDeposit := (conditions_survive.2 ancientDeposit survive fits).2 _ _ isRecord spells
  have readsLoan := (conditions_survive.1 mortgage loanSurvives (by decide)).1
  exact ⟨survive, fits, isRecord, spells, readsDeposit, loanSurvives, readsLoan⟩

end Record

end Reckoner
