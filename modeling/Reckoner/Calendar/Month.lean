import Reckoner.Calendar.DayNumber

/-!
# Moving a date by months and years

A date moved by months keeps its day of the month, or takes the last day of the target month if that
month is shorter. A target outside the calendar gives the end of the calendar in the direction of
the move.

Numbers of months are 32-bit numbers. A product of such numbers that does not fit stays at the end
of their range, which lies far outside the calendar.
-/

namespace Reckoner

namespace Offset

/-- The least 32-bit number. -/
def least : Int := -2147483648

/-- The greatest 32-bit number. -/
def greatest : Int := 2147483647

/-- The nearest 32-bit number. -/
def clamp (value : Int) : Int := max least (min value greatest)

/-- A number in the range is left as it is. -/
theorem clamp_of_mem {value : Int} (lower : least ≤ value) (upper : value ≤ greatest) :
    clamp value = value := by
  simp only [clamp]
  omega

end Offset

namespace Date

/-- The number of months of a year. -/
def monthsInYear : Int := 12

/-- The number of months from the first month of year 0 to the month of a date. -/
def monthIndex (date : Date) : Int := date.year * monthsInYear + date.month - 1

/-- The date in the month of an index with the given day, or the last day of that month. -/
def ofMonthIndex? (index day : Int) : Option Date :=
  let year := index / monthsInYear
  let month := index % monthsInYear + 1
  ofTriple? year month (min day (daysInMonth year month))

/-- The date a number of months later, or earlier if the number is negative, within the calendar. -/
def addMonths (date : Date) (months : Int) : Date :=
  (ofMonthIndex? (date.monthIndex + months) date.day).getD (endOfCalendar months)

/-- The date a number of years later, or earlier if the number is negative, within the calendar. -/
def addYears (date : Date) (years : Int) : Date :=
  date.addMonths (Offset.clamp (years * monthsInYear))

end Date

end Reckoner
