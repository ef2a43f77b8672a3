import Reckoner.Calendar.Date

/-!
# Day numbers

Every date has a day number, by which days are counted and moved. Years are taken to start in March,
so that the leap day is the last day of its year. All divisions truncate toward zero; from the first
of March of year 0 on no operand is negative and the numbers count days without a gap. Before that
day the numbering is an approximation of the calendar.
-/

namespace Reckoner

namespace Date

/-- The number of a day; the first day of year 1 has number 1. -/
def dayNumber (date : Date) : Int :=
  let shift : Int := if date.month ≤ 2 then 1 else 0
  let year := date.year - shift
  let month := date.month + 12 * shift - 3
  let leapDays := year.tdiv 4 - year.tdiv 100 + year.tdiv 400
  date.day + (153 * month + 2).tdiv 5 + 365 * year + leapDays - 306

/-- The number of days from one date to another, negative if the other is earlier. -/
def daysBetween (first last : Date) : Int := last.dayNumber - first.dayNumber

/-- The year, month and day that a day number stands for, not yet known to be a real day. -/
def tripleOfDayNumber (number : Int) : Int × Int × Int :=
  let sinceMarch := number + 306
  let scaled := 100 * sinceMarch - 25
  let centuries := scaled.tdiv 3652425
  let leapCenturies := centuries - centuries.tdiv 4
  let year := (100 * leapCenturies + scaled).tdiv 36525
  let dayOfYear := leapCenturies + sinceMarch - 365 * year - year.tdiv 4
  let month := (5 * dayOfYear + 456).tdiv 153
  let day := dayOfYear - (153 * month - 457).tdiv 5
  if 12 < month then (year + 1, month - 12, day) else (year, month, day)

/-- The end of the calendar on the side of a signed number. -/
def endOfCalendar (direction : Int) : Date := if direction < 0 then least else greatest

/-- The date of a day number. Numbers outside the calendar, and numbers that stand for no real day,
give the end of the calendar on their side. -/
def ofDayNumber (number : Int) : Date :=
  if number < least.dayNumber then least
  else if greatest.dayNumber < number then greatest
  else
    let (year, month, day) := tripleOfDayNumber number
    (ofTriple? year month day).getD (endOfCalendar number)

/-- The date a number of days later, or earlier if the number is negative, within the calendar. -/
def addDays (date : Date) (days : Int) : Date := ofDayNumber (date.dayNumber + days)

end Date

end Reckoner
