import Mathlib.Order.Basic
import Reckoner.Proofs.Calendar.Order

/-!
# Dated things in order

In a list that is sorted by date, what is dated up to a day stands before what comes after it. So a
list that is used up day by day holds, at the end of a day, exactly what comes after that day.
-/

namespace Reckoner

namespace Date

variable {β : Type}

/-- Where the items that pass a test come first, they are the ones taken as long as the test passes.
-/
theorem takeWhile_eq_filter {test : β → Bool} {values : List β}
    (ordered : values.Pairwise fun earlier later => test later = true → test earlier = true) :
    values.takeWhile test = values.filter test ∧
      values.dropWhile test = values.filter fun value => !test value := by
  induction ordered with
  | nil => exact ⟨rfl, rfl⟩
  | @cons value rest before _ ih =>
      cases passes : test value with
      | true => simp [passes, ih]
      | false =>
          have nonePasses : ∀ later ∈ rest, ¬test later = true := by
            intro later member laterPasses
            rw [before later member laterPasses] at passes
            contradiction
          have noneTaken : rest.filter test = [] := List.filter_eq_nil_iff.mpr nonePasses
          have allLeft : (rest.filter fun later => !test later) = rest := by
            rw [List.filter_eq_self]
            intro later member
            simpa using nonePasses later member
          simp [passes, noneTaken, allLeft]

variable {key : β → Date} {values : List β}

/-- In a list sorted by date, what comes up to a day stands before what comes after it. -/
theorem takeWhile_le_eq_filter
    (sorted : values.Pairwise fun earlier later => key earlier ≤ key later)
    (day : Date) :
    (values.takeWhile fun value => decide (key value ≤ day)) =
        (values.filter fun value => decide (key value ≤ day)) ∧
      (values.dropWhile fun value => decide (key value ≤ day)) =
        values.filter fun value => decide (day < key value) := by
  have ordered : values.Pairwise fun earlier later =>
      decide (key later ≤ day) = true → decide (key earlier ≤ day) = true := by
    refine List.Pairwise.imp ?_ sorted
    intro earlier later isLe laterLe
    exact decide_eq_true (le_trans isLe (of_decide_eq_true laterLe))
  have parts := takeWhile_eq_filter ordered
  simpa only [← decide_not, not_le] using parts

theorem filter_le_append_filter_lt
    (sorted : values.Pairwise fun earlier later => key earlier ≤ key later)
    (day : Date) :
    (values.filter fun value => decide (key value ≤ day)) ++
      (values.filter fun value => decide (day < key value)) = values := by
  have parts := takeWhile_le_eq_filter sorted day
  rw [← parts.1, ← parts.2]
  exact List.takeWhile_append_dropWhile

theorem eq_next_iff {day : Date} (notLast : day < greatest) (other : Date) :
    other = day.next ↔ other ≤ day.next ∧ day < other := by
  rw [← next_le_iff notLast]
  exact ⟨fun same => ⟨le_of_eq same, ge_of_eq same⟩, fun both => le_antisymm both.1 both.2⟩

theorem filter_le_next_eq_append
    (sorted : values.Pairwise fun earlier later => key earlier ≤ key later)
    {day : Date} (notLast : day < greatest) :
    (values.filter fun value => decide (key value ≤ day.next)) =
      (values.filter fun value => decide (key value ≤ day)) ++
        values.filter fun value => decide (key value = day.next) := by
  have parts :=
    filter_le_append_filter_lt (sorted.filter fun value => decide (key value ≤ day.next)) day
  rw [List.filter_filter, List.filter_filter] at parts
  rw [← parts]
  congr 1
  · refine List.filter_congr ?_
    intro value _
    rw [← Bool.decide_and, decide_eq_decide]
    exact ⟨fun both => both.1, fun isLe => ⟨isLe, le_trans isLe (le_of_lt (lt_next notLast))⟩⟩
  · refine List.filter_congr ?_
    intro value _
    rw [← Bool.decide_and, decide_eq_decide]
    exact (and_comm.trans (eq_next_iff notLast (key value)).symm)

/-- Among what comes after a day, what is dated on the next day comes first. -/
theorem takeWhile_eq_next (sorted : values.Pairwise fun earlier later => key earlier ≤ key later)
    {day : Date} (notLast : day < greatest) :
    ((values.filter fun value => decide (day < key value)).takeWhile fun value =>
        decide (key value = day.next)) =
      (values.filter fun value => decide (key value = day.next)) ∧
    ((values.filter fun value => decide (day < key value)).dropWhile fun value =>
        decide (key value = day.next)) =
      values.filter fun value => decide (day.next < key value) := by
  have ordered : (values.filter fun value => decide (day < key value)).Pairwise fun earlier later =>
      decide (key later = day.next) = true → decide (key earlier = day.next) = true := by
    rw [List.pairwise_filter]
    refine sorted.imp ?_
    intro earlier later isLe earlierAhead _ isNext
    rw [decide_eq_true_eq] at earlierAhead isNext ⊢
    rw [isNext] at isLe
    exact (eq_next_iff notLast _).mpr ⟨isLe, earlierAhead⟩
  rw [(takeWhile_eq_filter ordered).1, (takeWhile_eq_filter ordered).2, List.filter_filter,
    List.filter_filter]
  constructor
  · refine List.filter_congr ?_
    intro value _
    rw [← Bool.decide_and, decide_eq_decide]
    exact and_iff_left_of_imp fun isNext => by rw [isNext]; exact lt_next notLast
  · refine List.filter_congr ?_
    intro value _
    rw [← decide_not, ← Bool.decide_and, decide_eq_decide, ← next_le_iff notLast, and_comm,
      lt_iff_le_and_ne, ne_comm]

theorem filter_lt_eq_append (sorted : values.Pairwise fun earlier later => key earlier ≤ key later)
    {day : Date} (notLast : day < greatest) :
    (values.filter fun value => decide (day < key value)) =
      (values.filter fun value => decide (key value = day.next)) ++
        values.filter fun value => decide (day.next < key value) := by
  have due := takeWhile_eq_next sorted notLast
  rw [← due.1, ← due.2, List.takeWhile_append_dropWhile]

/-! ## Sorting by date -/

/-- A list is another one sorted by date, with things of one date in the order that they had. -/
structure IsStableSort (key : β → Date) (sorted values : List β) : Prop where
  perm : sorted.Perm values
  ordered : sorted.Pairwise fun earlier later => key earlier ≤ key later
  stable : ∀ date, (sorted.filter fun value => decide (key value = date)) =
    values.filter fun value => decide (key value = date)

theorem decide_key_le_trans (key : β → Date) (first second third : β)
    (firstLe : decide (key first ≤ key second) = true)
    (secondLe : decide (key second ≤ key third) = true) : decide (key first ≤ key third) = true :=
  decide_eq_true (le_trans (of_decide_eq_true firstLe) (of_decide_eq_true secondLe))

theorem decide_key_le_total (key : β → Date) (first second : β) :
    (decide (key first ≤ key second) || decide (key second ≤ key first)) = true := by
  simp only [Bool.or_eq_true, decide_eq_true_eq]
  exact le_total (key first) (key second)

/-- What is not dated after anything else stays in front. -/
theorem mergeSort_cons_of_le {first : β} (isFirst : ∀ value ∈ values, key first ≤ key value) :
    ((first :: values).mergeSort fun earlier later => decide (key earlier ≤ key later)) =
      first :: values.mergeSort fun earlier later => decide (key earlier ≤ key later) := by
  rcases List.mergeSort_cons (decide_key_le_trans key) (decide_key_le_total key) first values with
    ⟨before, after, sorted, sortedRest, isBefore⟩
  cases before with
  | nil => rw [sorted, sortedRest, List.nil_append, List.nil_append]
  | cons value before =>
      have member : value ∈ values := by
        rw [← List.mem_mergeSort, sortedRest]
        exact List.mem_cons_self
      have isLess := isBefore value List.mem_cons_self
      simp [isFirst value member] at isLess

/-- Sorting by dates is stable: things of one date are in order whatever their order is, so they are
kept as they stand. -/
theorem isStableSort_mergeSort (key : β → Date) (values : List β) :
    IsStableSort key (values.mergeSort fun earlier later => decide (key earlier ≤ key later))
      values := by
  have isTrans := decide_key_le_trans key
  have isTotal := decide_key_le_total key
  have isPerm := List.mergeSort_perm values fun earlier later => decide (key earlier ≤ key later)
  refine ⟨isPerm, (List.pairwise_mergeSort isTrans isTotal values).imp of_decide_eq_true, ?_⟩
  intro date
  have inOrder : (values.filter fun value => decide (key value = date)).Pairwise
      fun earlier later => decide (key earlier ≤ key later) = true := by
    refine List.pairwise_of_forall_mem_list ?_
    intro first firstMember second secondMember
    simp only [List.mem_filter, decide_eq_true_eq] at firstMember secondMember
    rw [firstMember.2, secondMember.2]
    exact decide_eq_true le_rfl
  have kept := (List.sublist_mergeSort isTrans isTotal inOrder List.filter_sublist).filter
    fun value => decide (key value = date)
  simp only [List.filter_filter, Bool.and_self] at kept
  exact (kept.eq_of_length (isPerm.filter _).length_eq.symm).symm

/-! ## Increasing dates -/

variable {dates : List Date}

theorem filter_eq_cases (increasing : dates.Pairwise (· < ·)) (date : Date) :
    (dates.filter fun other => decide (other = date)) = [] ∨
      (dates.filter fun other => decide (other = date)) = [date] := by
  cases found : dates.filter fun other => decide (other = date) with
  | nil => exact Or.inl rfl
  | cons first rest =>
      right
      have same : ∀ other ∈ first :: rest, other = date := by
        intro other member
        rw [← found, List.mem_filter] at member
        exact of_decide_eq_true member.2
      have ordered := increasing.filter fun other => decide (other = date)
      rw [found, List.pairwise_cons] at ordered
      cases rest with
      | nil => rw [same first List.mem_cons_self]
      | cons second rest =>
          have isLess := ordered.1 second List.mem_cons_self
          rw [same first List.mem_cons_self, same second (by simp)] at isLess
          exact absurd isLess (lt_irrefl date)

/-- If the first of the dates ahead is the next day, it is the one that is used up on that day. -/
theorem filter_of_head_eq_next (increasing : dates.Pairwise (· < ·)) {day : Date}
    (notLast : day < greatest) {ahead : List Date}
    (isNext : (dates.filter fun date => decide (day < date)) = day.next :: ahead) :
    ahead = (dates.filter fun date => decide (day.next < date)) ∧
      (dates.filter fun date => decide (date ≤ day.next)) =
        (dates.filter fun date => decide (date ≤ day)) ++ [day.next] := by
  have sorted : dates.Pairwise fun earlier later => id earlier ≤ id later :=
    increasing.imp fun isLess => le_of_lt isLess
  have aheadEq := filter_lt_eq_append sorted notLast
  have upToEq := filter_le_next_eq_append sorted notLast
  simp only [id_eq] at aheadEq upToEq
  rw [isNext] at aheadEq
  rcases filter_eq_cases increasing day.next with none | one
  · rw [none, List.nil_append] at aheadEq
    have member : day.next ∈ dates.filter fun date => decide (day.next < date) := by
      rw [← aheadEq]
      exact List.mem_cons_self
    rw [List.mem_filter, decide_eq_true_eq] at member
    exact absurd member.2 (lt_irrefl _)
  · rw [one] at aheadEq upToEq
    exact ⟨(List.cons.inj aheadEq).2, upToEq⟩

/-- If the first of the dates ahead is not the next day, none is used up on that day. -/
theorem filter_of_head_ne_next (increasing : dates.Pairwise (· < ·)) {day : Date}
    (notLast : day < greatest)
    (notNext : (dates.filter fun date => decide (day < date)).head? ≠ some day.next) :
    (dates.filter fun date => decide (day < date)) =
        (dates.filter fun date => decide (day.next < date)) ∧
      (dates.filter fun date => decide (date ≤ day.next)) =
        dates.filter fun date => decide (date ≤ day) := by
  have sorted : dates.Pairwise fun earlier later => id earlier ≤ id later :=
    increasing.imp fun isLess => le_of_lt isLess
  have aheadEq := filter_lt_eq_append sorted notLast
  have upToEq := filter_le_next_eq_append sorted notLast
  simp only [id_eq] at aheadEq upToEq
  rcases filter_eq_cases increasing day.next with none | one
  · rw [none] at aheadEq upToEq
    rw [List.append_nil] at upToEq
    exact ⟨aheadEq, upToEq⟩
  · rw [one] at aheadEq
    rw [aheadEq] at notNext
    exact absurd rfl notNext

end Date

end Reckoner
