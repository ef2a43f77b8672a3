import Reckoner.Digits

/-!
# Dates

Days of the proleptic Gregorian calendar in the years -9999 to 9999. A date is a real day by
construction, so a month length is never checked again after a date has been built.
-/

namespace Reckoner

/-- The Gregorian rule for leap years, also before year 1. -/
def isLeapYear (year : Int) : Bool :=
  year % 400 == 0 || (year % 100 != 0 && year % 4 == 0)

/-- The length of a month, counted from 1. Numbers that are no month get the length of January. -/
def daysInMonth (year month : Int) : Int :=
  if month = 2 then if isLeapYear year then 29 else 28
  else if month = 4 ∨ month = 6 ∨ month = 9 ∨ month = 11 then 30
  else 31

/-- The length of a year. -/
def daysInYear (year : Int) : Int := if isLeapYear year then 366 else 365

/-- A month has at least 28 days. -/
theorem le_daysInMonth (year month : Int) : 28 ≤ daysInMonth year month := by
  unfold daysInMonth
  repeat' split
  all_goals omega

/-- A month has at most 31 days. -/
theorem daysInMonth_le (year month : Int) : daysInMonth year month ≤ 31 := by
  unfold daysInMonth
  repeat' split
  all_goals omega

/-- A day of the calendar between the first day of year -9999 and the last day of year 9999. -/
structure Date where
  year : Int
  month : Int
  day : Int
  le_year : -9999 ≤ year
  year_le : year ≤ 9999
  le_month : 1 ≤ month
  month_le : month ≤ 12
  le_day : 1 ≤ day
  day_le : day ≤ daysInMonth year month
  deriving DecidableEq

namespace Date

/-- The date of a year, a month and a day, if there is such a day. -/
def ofTriple? (year month day : Int) : Option Date :=
  if real : (-9999 ≤ year ∧ year ≤ 9999) ∧ (1 ≤ month ∧ month ≤ 12) ∧
      (1 ≤ day ∧ day ≤ daysInMonth year month) then
    some ⟨year, month, day, real.1.1, real.1.2, real.2.1.1, real.2.1.2, real.2.2.1, real.2.2.2⟩
  else none

/-- The parts of a date name it. -/
theorem ofTriple?_parts (date : Date) : ofTriple? date.year date.month date.day = some date := by
  have real : (-9999 ≤ date.year ∧ date.year ≤ 9999) ∧ (1 ≤ date.month ∧ date.month ≤ 12) ∧
      (1 ≤ date.day ∧ date.day ≤ daysInMonth date.year date.month) :=
    ⟨⟨date.le_year, date.year_le⟩, ⟨date.le_month, date.month_le⟩, ⟨date.le_day, date.day_le⟩⟩
  simp [ofTriple?, real]

/-- The first day of the calendar. -/
def least : Date :=
  ⟨-9999, 1, 1, by decide, by decide, by decide, by decide, by decide, by decide⟩

/-- The last day of the calendar. -/
def greatest : Date :=
  ⟨9999, 12, 31, by decide, by decide, by decide, by decide, by decide, by decide⟩

/-- The chronological order. -/
def Before (earlier later : Date) : Prop :=
  earlier.year < later.year ∨
    (earlier.year = later.year ∧
      (earlier.month < later.month ∨ (earlier.month = later.month ∧ earlier.day < later.day)))

instance : LT Date := ⟨Before⟩

instance : LE Date := ⟨fun earlier later => ¬ Before later earlier⟩

instance (earlier later : Date) : Decidable (earlier < later) := by
  unfold LT.lt instLT Before
  infer_instance

instance (earlier later : Date) : Decidable (earlier ≤ later) :=
  inferInstanceAs (Decidable (¬ later < earlier))

/-- Two dates with the same parts are the same. -/
theorem eq_of_parts {first second : Date} (year : first.year = second.year)
    (month : first.month = second.month) (day : first.day = second.day) : first = second := by
  cases first
  cases second
  simp_all

/-- Whether a date closes its calendar year. -/
def isLastDayOfYear (date : Date) : Bool := date.month == 12 && date.day == 31

/-- The written form of a year: four digits, or a minus and six digits before year 0. -/
def yearText (year : Int) : List Char :=
  if year < 0 then '-' :: Digits.padded 6 year.natAbs else Digits.padded 4 year.natAbs

/-- The written form of a date, year before month before day. -/
def text (date : Date) : List Char :=
  yearText date.year ++ '-' :: Digits.padded 2 date.month.natAbs ++
    '-' :: Digits.padded 2 date.day.natAbs

end Date

end Reckoner
