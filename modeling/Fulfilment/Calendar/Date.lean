/-!
# Dates

Dates of the proleptic Gregorian calendar in the years 1 to 9999, and their day numbers: the
number of days from 0001-01-01.
-/

namespace Fulfilment

/-- A year with a February 29. -/
def isLeapYear (year : Nat) : Bool :=
  year % 4 = 0 && (year % 100 ≠ 0 || year % 400 = 0)

/-- The lengths of the twelve months. -/
def monthLengths (leap : Bool) : List Nat :=
  [31, if leap then 29 else 28, 31, 30, 31, 30, 31, 31, 30, 31, 30, 31]

/-- The length of a month, zero for a number that names none. -/
def daysInMonth (year month : Nat) : Nat :=
  match month with
  | 0 => 0
  | index + 1 => (monthLengths (isLeapYear year))[index]?.getD 0

/-- Year, month and day name a date of the calendar. -/
def IsDate (year month day : Nat) : Prop :=
  (1 ≤ year ∧ year ≤ 9999) ∧ 1 ≤ month ∧ 1 ≤ day ∧ day ≤ daysInMonth year month

instance (year month day : Nat) : Decidable (IsDate year month day) := by
  unfold IsDate
  infer_instance

/-- A date. -/
structure Date where
  year : Nat
  month : Nat
  day : Nat
  isDate : IsDate year month day
deriving DecidableEq, Repr

namespace Date

/-- The date of year, month and day, if they name one. -/
def of? (year month day : Nat) : Option Date :=
  if isDate : IsDate year month day then some ⟨year, month, day, isDate⟩ else none

/-- The number of days before a year. -/
def daysBeforeYear (year : Nat) : Nat :=
  let past := year - 1
  past * 365 + past / 4 - past / 100 + past / 400

/-- The number of days of a year before a month. -/
def daysBeforeMonth (year month : Nat) : Nat :=
  ((monthLengths (isLeapYear year)).take (month - 1)).foldr (· + ·) 0

/-- The number of days from 0001-01-01 to a date. -/
def dayNumber (date : Date) : Nat :=
  daysBeforeYear date.year + daysBeforeMonth date.year date.month + (date.day - 1)

/-- The number of days in the calendar. -/
def calendarDays : Nat := 3652059

/-- The year of a day number and the days of that year before it.  Cycles of four hundred, one
hundred, four and one years are taken off in turn; the last century of four hundred years and
the last year of four are a day longer than the others. -/
def yearOfDayNumber (number : Nat) : Nat × Nat :=
  let inEra := number % 146097
  let century := min (inEra / 36524) 3
  let inCentury := inEra - century * 36524
  let inFour := inCentury % 1461
  let single := min (inFour / 365) 3
  (number / 146097 * 400 + century * 100 + inCentury / 1461 * 4 + single + 1,
    inFour - single * 365)

/-- The month and day that lie a number of days after the first of a month, given the lengths of
that month and the following ones. -/
def monthAndDay : List Nat → Nat → Nat → Nat × Nat
  | [], month, days => (month, days + 1)
  | length :: lengths, month, days =>
      if days < length then (month, days + 1) else monthAndDay lengths (month + 1) (days - length)

/-- The date of a day number, if the calendar has it. -/
def ofDayNumber? (number : Nat) : Option Date :=
  let (year, days) := yearOfDayNumber number
  let (month, day) := monthAndDay (monthLengths (isLeapYear year)) 1 days
  of? year month day

end Date

end Fulfilment
