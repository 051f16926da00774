import Fulfilment.Proofs.Calendar.DayNumber
import Mathlib.Data.List.Lex
import Mathlib.Data.Nat.Init
import Mathlib.Tactic.SplitIfs

/-!
# Instants

An instant is a number of microseconds of UTC since the first moment of the calendar.  The day
numbers behind it count the days one after another, each by the rule of the calendar alone, and
wall clocks follow one another as their fields do, the year first and the microsecond last.

A wall clock that is ahead of UTC tells an instant, and UTC tells the same one by a wall clock of
its own.  There is none exactly if the instant lies before the first moment of the calendar or
behind its last.  How far ahead a wall clock is may be any number of microseconds here, finer than
the minutes of an offset.
-/

namespace Fulfilment

namespace Date

/-! ## Days one after another -/

/-- The date of the day after: the next day of the month, or else the first of the next month, or
else the first of the next year, if the calendar has it. -/
def tomorrow? (date : Date) : Option Date :=
  (of? date.year date.month (date.day + 1)).or
    ((of? date.year (date.month + 1) 1).or (of? (date.year + 1) 1 1))

/-- The date so many days after the first of the calendar, found day by day. -/
def daysOn? : Nat → Option Date
  | 0 => of? 1 1 1
  | days + 1 => (daysOn? days).bind tomorrow?

theorem isLeapYear_eq (year : Nat) :
    isLeapYear year = decide (4 ∣ year ∧ (¬100 ∣ year ∨ 400 ∣ year)) := by
  simp [isLeapYear, Nat.dvd_iff_mod_eq_zero]

theorem daysBeforeYear_succ
    {year : Nat}
    (positive : 1 ≤ year) :
    daysBeforeYear (year + 1) = daysBeforeYear year + daysInYear year := by
  obtain ⟨past, rfl⟩ := Nat.exists_eq_add_of_le' positive
  have centuries : 100 ∣ past + 1 → 4 ∣ past + 1 := by omega
  have eras : 400 ∣ past + 1 → 100 ∣ past + 1 := by omega
  have fewer : past / 100 ≤ past / 4 := by omega
  simp only [daysBeforeYear, daysInYear, isLeapYear_eq, Nat.add_sub_cancel, Nat.succ_div,
    decide_eq_true_eq]
  split_ifs <;> omega

theorem daysBeforeMonth_succ
    {year month : Nat}
    (positive : 1 ≤ month) :
    daysBeforeMonth year (month + 1) = daysBeforeMonth year month + daysInMonth year month := by
  obtain ⟨index, rfl⟩ := Nat.exists_eq_add_of_le' positive
  change (List.take (index + 1) (monthLengths (isLeapYear year))).sum
    = (List.take index (monthLengths (isLeapYear year))).sum
      + (monthLengths (isLeapYear year))[index]?.getD 0
  rw [List.take_add_one, List.sum_append]
  cases (monthLengths (isLeapYear year))[index]? <;> simp

/-- Units follow one another, so a later one begins behind the end of an earlier one. -/
theorem add_size_le_of_lt
    {before size : Nat → Nat}
    (next : ∀ unit, 1 ≤ unit → before (unit + 1) = before unit + size unit)
    {unit later : Nat}
    (positive : 1 ≤ unit)
    (earlier : unit < later) : before unit + size unit ≤ before later := by
  induction later, earlier using Nat.le_induction with
  | base => rw [next unit positive]
  | succ later earlier inductionHypothesis =>
      rw [next later (by omega)]
      omega

theorem daysInMonth_of_lt
    {year month : Nat}
    (beyond : 12 < month) : daysInMonth year month = 0 := by
  obtain ⟨more, rfl⟩ := Nat.exists_eq_add_of_lt beyond
  unfold daysInMonth
  cases isLeapYear year <;> simp [monthLengths]

theorem daysInMonth_pos
    {year month : Nat}
    (positive : 1 ≤ month)
    (bound : month ≤ 12) : 1 ≤ daysInMonth year month := by
  obtain ⟨index, rfl⟩ := Nat.exists_eq_add_of_le' positive
  have inYear : index < 12 := by omega
  unfold daysInMonth
  cases isLeapYear year
  · exact (by decide : ∀ index < 12, 1 ≤ (monthLengths false)[index]?.getD 0) index inYear
  · exact (by decide : ∀ index < 12, 1 ≤ (monthLengths true)[index]?.getD 0) index inYear

theorem month_le (date : Date) : date.month ≤ 12 := by
  obtain ⟨-, -, positive, within⟩ := date.isDate
  by_contra beyond
  rw [daysInMonth_of_lt (by omega)] at within
  omega

/-- The last month ends with the year. -/
theorem daysBeforeMonth_twelve (year : Nat) :
    daysBeforeMonth year 12 + daysInMonth year 12 = daysInYear year := by
  unfold daysBeforeMonth daysInMonth daysInYear
  cases isLeapYear year <;> rfl

theorem ofDayNumber?_of_dayNumber
    {number : Nat}
    {date : Date}
    (numbered : date.dayNumber = number) : ofDayNumber? number = some date := by
  rw [← numbered, ofDayNumber?_dayNumber]

/-- The date of the next day number is the date of the day after. -/
theorem ofDayNumber?_succ (date : Date) :
    ofDayNumber? (date.dayNumber + 1) = date.tomorrow? := by
  obtain ⟨⟨yearPositive, yearBound⟩, monthPositive, dayPositive, within⟩ := date.isDate
  have monthBound := date.month_le
  have nextMonth :
      daysBeforeMonth date.year (date.month + 1) =
        daysBeforeMonth date.year date.month + daysInMonth date.year date.month :=
    daysBeforeMonth_succ monthPositive
  unfold tomorrow?
  by_cases inMonth : IsDate date.year date.month (date.day + 1)
  · rw [of?, dif_pos inMonth, Option.some_or]
    refine ofDayNumber?_of_dayNumber ?_
    simp only [dayNumber]
    omega
  have lastOfMonth : date.day = daysInMonth date.year date.month := by
    simp only [IsDate, not_and] at inMonth
    omega
  rw [(of?_eq_none_iff _ _ _).mpr inMonth, Option.none_or]
  by_cases inYear : IsDate date.year (date.month + 1) 1
  · rw [of?, dif_pos inYear, Option.some_or]
    refine ofDayNumber?_of_dayNumber ?_
    simp only [dayNumber]
    omega
  have december : date.month = 12 := by
    by_contra other
    exact inYear
      ⟨⟨yearPositive, yearBound⟩, by omega, by omega, daysInMonth_pos (by omega) (by omega)⟩
  rw [(of?_eq_none_iff _ _ _).mpr inYear, Option.none_or]
  have lastOfYear : date.dayNumber + 1 = daysBeforeYear (date.year + 1) := by
    have total := daysBeforeMonth_twelve date.year
    rw [daysBeforeYear_succ yearPositive]
    simp only [december] at lastOfMonth
    simp only [dayNumber, december]
    omega
  by_cases inCalendar : date.year + 1 ≤ 9999
  · have isDate : IsDate (date.year + 1) 1 1 :=
      ⟨⟨by omega, inCalendar⟩, by omega, by omega, daysInMonth_pos (by omega) (by omega)⟩
    rw [of?, dif_pos isDate]
    refine ofDayNumber?_of_dayNumber ?_
    rw [lastOfYear]
    rfl
  · have lastYear : date.year = 9999 := by omega
    have noDate : ¬IsDate (date.year + 1) 1 1 := fun isDate => inCalendar isDate.1.2
    rw [(of?_eq_none_iff _ _ _).mpr noDate, ofDayNumber?_eq_none_iff, lastOfYear, lastYear]
    decide

/-- Day numbers count the days one after another. -/
theorem ofDayNumber?_eq_daysOn? (days : Nat) :
    ofDayNumber? days = daysOn? days := by
  induction days with
  | zero => rfl
  | succ days inductionHypothesis =>
      rw [daysOn?, ← inductionHypothesis]
      cases found : ofDayNumber? days with
      | none =>
          rw [ofDayNumber?_eq_none_iff] at found
          exact (ofDayNumber?_eq_none_iff _).mpr (by omega)
      | some date =>
          rw [← dayNumber_of_ofDayNumber? found]
          exact ofDayNumber?_succ date

theorem daysOn?_eq_some_iff
    {days : Nat}
    {date : Date} :
    daysOn? days = some date ↔ date.dayNumber = days := by
  rw [← ofDayNumber?_eq_daysOn?]
  exact ⟨dayNumber_of_ofDayNumber?, ofDayNumber?_of_dayNumber⟩

/-! ## The order of wall clocks -/

/-- What tells a date, the most significant part first. -/
def fields (date : Date) : List Nat :=
  [date.year, date.month, date.day]

/-- Later dates have greater day numbers. -/
theorem dayNumber_lt_of_fields_lt
    {date later : Date}
    (before : date.fields < later.fields) : date.dayNumber < later.dayNumber := by
  have inYear := daysBeforeMonth_add_lt date.isDate
  obtain ⟨⟨yearPositive, -⟩, monthPositive, dayPositive, inMonth⟩ := date.isDate
  simp only [fields, List.cons_lt_cons_iff, List.not_lt_nil, and_false, or_false] at before
  simp only [dayNumber]
  rcases before with year | ⟨sameYear, month | ⟨sameMonth, day⟩⟩
  · have := add_size_le_of_lt (fun _ => daysBeforeYear_succ) yearPositive year
    omega
  · have := add_size_le_of_lt (fun _ => @daysBeforeMonth_succ date.year _) monthPositive month
    rw [← sameYear]
    omega
  · rw [← sameYear, ← sameMonth]
    omega

theorem eq_of_fields_eq
    {date other : Date}
    (same : date.fields = other.fields) : date = other := by
  obtain ⟨year, month, day, _⟩ := date
  obtain ⟨otherYear, otherMonth, otherDay, _⟩ := other
  simpa [fields] using same

end Date

/-- What tells a time of day, the most significant part first. -/
def TimeOfDay.fields (time : TimeOfDay) : List Nat :=
  [time.hour, time.minute, time.second, time.microsecond]

theorem TimeOfDay.microseconds_lt_of_fields_lt
    {time later : TimeOfDay}
    (before : time.fields < later.fields) : time.microseconds < later.microseconds := by
  simp only [fields, List.cons_lt_cons_iff, List.not_lt_nil, and_false, or_false] at before
  simp only [microseconds]
  omega

namespace WallClock

/-- What tells a wall clock, the most significant part first. -/
def fields (clock : WallClock) : List Nat :=
  clock.date.fields ++ clock.time.fields

/-- Later wall clocks count more microseconds. -/
theorem microseconds_lt_of_fields_lt
    {clock later : WallClock}
    (before : clock.fields < later.fields) : clock.microseconds < later.microseconds := by
  have inDay := clock.time.microseconds_lt_perDay
  have parts : clock.date.fields < later.date.fields
      ∨ clock.date.fields = later.date.fields ∧ clock.time.fields < later.time.fields := by
    simp only [fields, Date.fields, List.cons_append, List.nil_append, List.cons_lt_cons_iff,
      List.not_lt_nil, and_false, or_false, List.cons.injEq, and_true] at before ⊢
    tauto
  simp only [microseconds, TimeOfDay.perDay] at inDay ⊢
  rcases parts with date | ⟨sameDate, time⟩
  · have := Date.dayNumber_lt_of_fields_lt date
    omega
  · have := TimeOfDay.microseconds_lt_of_fields_lt time
    rw [Date.eq_of_fields_eq sameDate]
    omega

theorem eq_of_fields_eq
    {clock other : WallClock}
    (same : clock.fields = other.fields) : clock = other := by
  obtain ⟨date, ⟨hour, minute, second, microsecond⟩⟩ := clock
  obtain ⟨otherDate, ⟨otherHour, otherMinute, otherSecond, otherMicrosecond⟩⟩ := other
  obtain ⟨dates, times⟩ := List.append_inj same rfl
  obtain rfl := Date.eq_of_fields_eq dates
  simpa [TimeOfDay.fields, Fin.val_inj] using times

/-- Wall clocks count microseconds in the order of their fields. -/
theorem microseconds_lt_iff
    {clock other : WallClock} :
    clock.microseconds < other.microseconds ↔ clock.fields < other.fields := by
  refine ⟨fun fewer => ?_, microseconds_lt_of_fields_lt⟩
  rcases lt_trichotomy clock.fields other.fields with before | same | behind
  · exact before
  · rw [eq_of_fields_eq same] at fewer
    exact absurd fewer (Nat.lt_irrefl _)
  · exact absurd (microseconds_lt_of_fields_lt behind) (Nat.lt_asymm fewer)

/-! ## Wall clocks of UTC -/

/-- The first wall clock of the calendar. -/
def first : WallClock := ⟨⟨1, 1, 1, by decide⟩, .midnight⟩

/-- The last wall clock of the calendar, a microsecond before midnight. -/
def last : WallClock := ⟨⟨9999, 12, 31, by decide⟩, .ofMicroseconds (TimeOfDay.perDay - 1)⟩

/-- The instant at which a clock that is ahead of UTC by some microseconds shows a wall clock. -/
def instant
    (clock : WallClock)
    (ahead : Int) : Int :=
  clock.microseconds - ahead

/-- What a clock of UTC shows when one that is ahead of it by some microseconds shows a wall clock,
if the calendar has it. -/
def utc?
    (clock : WallClock)
    (ahead : Int) : Option WallClock :=
  ofMicroseconds? (clock.instant ahead)

variable {clock utc : WallClock} {ahead : Int}

theorem microseconds_first : first.microseconds = 0 := by decide

theorem microseconds_last : last.microseconds + 1 = Date.calendarDays * TimeOfDay.perDay := by
  decide

/-- UTC tells the same instant, and nothing else tells it in UTC. -/
theorem utc?_eq_some_iff : clock.utc? ahead = some utc ↔ utc.instant 0 = clock.instant ahead := by
  rw [instant, Int.sub_zero]
  constructor
  · exact microseconds_of_ofMicroseconds?
  · intro same
    rw [utc?, ← same, ofMicroseconds?_microseconds]

/-- Late on a leap day, an hour and a half behind UTC, it is March in UTC. -/
example :
    utc? ⟨⟨2024, 2, 29, by decide⟩, ⟨23, 30, 0, 0⟩⟩ (-5400000000) =
      some ⟨⟨2024, 3, 1, by decide⟩, ⟨1, 0, 0, 0⟩⟩ := by decide

/-- UTC does not tell an instant exactly if it lies outside the calendar. -/
theorem utc?_eq_none_iff :
    clock.utc? ahead = none ↔
      clock.instant ahead < first.instant 0 ∨ last.instant 0 < clock.instant ahead := by
  have firstCount := microseconds_first
  have lastCount := microseconds_last
  have ends (other : WallClock) : other.instant 0 = other.microseconds := Int.sub_zero _
  rw [utc?, ofMicroseconds?_eq_none_iff, ends, ends, ← lastCount]
  omega

/-- A wall clock of UTC is its own. -/
theorem utc?_zero (clock : WallClock) : clock.utc? 0 = some clock :=
  utc?_eq_some_iff.mpr rfl

/-- UTC tells earlier instants by earlier wall clocks. -/
theorem instant_lt_iff_of_utc?
    {other otherUtc : WallClock}
    {otherAhead : Int}
    (told : clock.utc? ahead = some utc)
    (otherTold : other.utc? otherAhead = some otherUtc) :
    clock.instant ahead < other.instant otherAhead ↔ utc.fields < otherUtc.fields := by
  rw [← utc?_eq_some_iff.mp told, ← utc?_eq_some_iff.mp otherTold, ← microseconds_lt_iff]
  simp only [instant]
  omega

end WallClock

namespace DateTime

/-- The microseconds by which the wall clock of a datetime is ahead of UTC; it is UTC unless told
otherwise. -/
def ahead (datetime : DateTime) : Int :=
  datetime.offset.elim 0 Offset.microseconds

/-- The moment of a datetime is what a clock of UTC shows. -/
theorem moment?_eq (datetime : DateTime) :
    datetime.moment? = (datetime.wall.utc? datetime.ahead).map Moment.mk := rfl

/-- Datetimes of one instant tell one moment, or none of them does. -/
theorem moment?_of_instant_eq
    {datetime other : DateTime}
    (same : datetime.instant = other.instant) : datetime.moment? = other.moment? := by
  rw [moment?, moment?, same]

end DateTime

end Fulfilment
