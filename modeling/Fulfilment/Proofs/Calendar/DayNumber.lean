import Fulfilment.Calendar.DateTime

/-!
# Dates of day numbers

The day number of a date gives the date back, and so the microseconds of a wall clock give the
wall clock back.  A moment told in UTC is the moment.  What lies before the first day of the
calendar or behind its last has no date, no wall clock and no moment.
-/

namespace Fulfilment

/-- The number of days of a year. -/
def daysInYear (year : Nat) : Nat :=
  if isLeapYear year then 366 else 365

namespace Date

/-- Full units and a rest: how many they are and what is left of them. -/
theorem div_and_mod_of_lt
    {unit rest : Nat}
    (within : rest < unit)
    (count : Nat) :
    (count * unit + rest) / unit = count ∧ (count * unit + rest) % unit = rest := by
  rw [Nat.mul_comm, Nat.mul_add_div (by omega), Nat.mul_add_mod, Nat.div_eq_of_lt within,
    Nat.mod_eq_of_lt within]
  exact ⟨rfl, rfl⟩

/-- The number of units is capped at three; the rest may be longer than a unit after the last. -/
theorem min_div_three
    {unit count rest : Nat}
    (positive : 0 < unit)
    (bound : count < 4)
    (within : rest < unit ∨ count = 3) :
    min ((count * unit + rest) / unit) 3 = count := by
  rw [Nat.mul_comm, Nat.mul_add_div positive]
  rcases within with small | last
  · rw [Nat.div_eq_of_lt small]
    omega
  · generalize rest / unit = more
    omega

/-- The year that lies after so many eras, centuries, fours and single years. -/
theorem yearOfDayNumber_position
    {era century four single days : Nat}
    (centuryBound : century < 4)
    (fourBound : four < 25)
    (singleBound : single < 4)
    (within : days < 365 ∨ days = 365 ∧ single = 3 ∧ (four < 24 ∨ century = 3)) :
    yearOfDayNumber (era * 146097 + (century * 36524 + (four * 1461 + (single * 365 + days)))) =
      (era * 400 + century * 100 + four * 4 + single + 1, days) := by
  obtain ⟨shortEra, shortCentury, shortFour, shortYear⟩ :
      century * 36524 + (four * 1461 + (single * 365 + days)) < 146097 ∧
        (four * 1461 + (single * 365 + days) < 36524 ∨ century = 3) ∧
        single * 365 + days < 1461 ∧ (days < 365 ∨ single = 3) := by
    refine ⟨?_, ?_, ?_, ?_⟩ <;> omega
  obtain ⟨eras, inEra⟩ := div_and_mod_of_lt shortEra era
  obtain ⟨fours, inFour⟩ := div_and_mod_of_lt shortFour four
  have centuries := min_div_three (by decide) centuryBound shortCentury
  have singles := min_div_three (by decide) singleBound shortYear
  simp only [yearOfDayNumber]
  rw [eras, inEra, centuries, Nat.add_sub_cancel_left, fours, inFour, singles,
    Nat.add_sub_cancel_left]

/-- The day numbers of a year begin where the days before it end. -/
theorem yearOfDayNumber_daysBeforeYear
    {year days : Nat}
    (positive : 1 ≤ year)
    (within : days < daysInYear year) :
    yearOfDayNumber (daysBeforeYear year + days) = (year, days) := by
  obtain ⟨era, century, four, single, position, centuryBound, fourBound, singleBound⟩ :
      ∃ era century four single, year = era * 400 + century * 100 + four * 4 + single + 1 ∧
        century < 4 ∧ four < 25 ∧ single < 4 :=
    ⟨(year - 1) / 400, (year - 1) % 400 / 100, (year - 1) % 100 / 4, (year - 1) % 4,
      by omega, by omega, by omega, by omega⟩
  have before :
      daysBeforeYear year + days =
        era * 146097 + (century * 36524 + (four * 1461 + (single * 365 + days))) := by
    simp only [daysBeforeYear]
    omega
  have bound : days < 365 ∨ days = 365 ∧ single = 3 ∧ (four < 24 ∨ century = 3) := by
    unfold daysInYear isLeapYear at within
    by_cases common : days < 365
    · exact .inl common
    · right
      split at within
      · next leap =>
        simp only [Bool.and_eq_true, Bool.or_eq_true, decide_eq_true_eq] at leap
        omega
      · omega
  rw [before, yearOfDayNumber_position centuryBound fourBound singleBound bound, position]

/-- The days before a month and a day of that month give the month and the day. -/
theorem monthAndDay_sum_take
    (month : Nat) :
    ∀ (lengths : List Nat) (index days : Nat),
      days < lengths[index]?.getD 0 →
      monthAndDay lengths month ((lengths.take index).foldr (· + ·) 0 + days) =
        (month + index, days + 1)
  | [], index, days, within => by simp at within
  | length :: lengths, 0, days, within => by
      have inside : days < length := by simpa using within
      simp [monthAndDay, inside]
  | length :: lengths, index + 1, days, within => by
      have following := monthAndDay_sum_take (month + 1) lengths index days (by simpa using within)
      have outside : ¬length + (lengths.take index).foldr (· + ·) 0 + days < length := by omega
      have remaining :
          length + (lengths.take index).foldr (· + ·) 0 + days - length =
            (lengths.take index).foldr (· + ·) 0 + days := by
        omega
      simp only [List.take_succ_cons, List.foldr_cons, monthAndDay, outside, if_false, remaining,
        following]
      rw [Nat.add_right_comm, Nat.add_assoc]

/-- The days of the months before a month and a day of that month lie within the year. -/
theorem daysBeforeMonth_add_lt
    {year month day : Nat}
    (isDate : IsDate year month day) :
    daysBeforeMonth year month + (day - 1) < daysInYear year := by
  obtain ⟨-, positive, dayPositive, within⟩ := isDate
  obtain ⟨index, rfl⟩ : ∃ index, month = index + 1 := ⟨month - 1, by omega⟩
  unfold daysBeforeMonth daysInYear
  unfold daysInMonth at within
  generalize isLeapYear year = leap at within ⊢
  cases leap <;>
    simp only [monthLengths, Nat.add_sub_cancel, if_true, Bool.false_eq_true, if_false] at within ⊢
  all_goals
    match index with
    | 0 | 1 | 2 | 3 | 4 | 5 | 6 | 7 | 8 | 9 | 10 | 11 =>
        simp at within ⊢
        omega
    | _ + 12 =>
        simp at within
        omega

/-- The day number of a date gives the date. -/
@[simp]
theorem ofDayNumber?_dayNumber (date : Date) :
    ofDayNumber? date.dayNumber = some date := by
  obtain ⟨year, month, day, isDate⟩ := date
  have inYear := daysBeforeMonth_add_lt isDate
  obtain ⟨⟨yearPositive, -⟩, monthPositive, dayPositive, within⟩ := id isDate
  obtain ⟨index, rfl⟩ : ∃ index, month = index + 1 := ⟨month - 1, by omega⟩
  have inMonth : day - 1 < (monthLengths (isLeapYear year))[index]?.getD 0 := by
    simp only [daysInMonth] at within
    omega
  have monthDay := monthAndDay_sum_take 1 (monthLengths (isLeapYear year)) index (day - 1) inMonth
  have first : 1 + index = index + 1 := by omega
  have last : day - 1 + 1 = day := by omega
  simp only [first, last] at monthDay
  have yearDays := yearOfDayNumber_daysBeforeYear yearPositive inYear
  simp only [daysBeforeMonth, Nat.add_sub_cancel] at yearDays
  simp only [ofDayNumber?, dayNumber, daysBeforeMonth, Nat.add_sub_cancel, Nat.add_assoc, yearDays,
    monthDay]
  simp [of?, isDate]

/-- Every day number lies so many eras, centuries, fours and single years after the first. -/
theorem exists_position (number : Nat) :
    ∃ era century four single days,
      number = era * 146097 + (century * 36524 + (four * 1461 + (single * 365 + days)))
        ∧ century < 4 ∧ four < 25 ∧ single < 4
        ∧ (days < 365 ∨ days = 365 ∧ single = 3 ∧ (four < 24 ∨ century = 3)) := by
  obtain ⟨era, inEra, eras, inEraBound⟩ :
      ∃ era inEra, number = era * 146097 + inEra ∧ inEra < 146097 :=
    ⟨number / 146097, number % 146097, by omega, by omega⟩
  obtain ⟨century, inCentury, centuries, centuryBound, inCenturyBound⟩ :
      ∃ century inCentury, inEra = century * 36524 + inCentury ∧ century < 4
        ∧ (inCentury < 36524 ∨ inCentury = 36524 ∧ century = 3) :=
    ⟨min (inEra / 36524) 3, inEra - min (inEra / 36524) 3 * 36524, by omega, by omega, by omega⟩
  obtain ⟨four, inFour, fours, inFourBound⟩ :
      ∃ four inFour, inCentury = four * 1461 + inFour ∧ inFour < 1461 :=
    ⟨inCentury / 1461, inCentury % 1461, by omega, by omega⟩
  obtain ⟨single, days, singles, singleBound, daysBound⟩ :
      ∃ single days, inFour = single * 365 + days ∧ single < 4
        ∧ (days < 365 ∨ days = 365 ∧ single = 3) :=
    ⟨min (inFour / 365) 3, inFour - min (inFour / 365) 3 * 365, by omega, by omega, by omega⟩
  exact ⟨era, century, four, single, days, by omega, centuryBound, by omega, singleBound, by omega⟩

/-- A day number tells a year and a day of that year.  The year is at most 9999 exactly if the day
number is in the calendar. -/
theorem yearOfDayNumber_bounds (number : Nat) :
    1 ≤ (yearOfDayNumber number).1
      ∧ (yearOfDayNumber number).2 < daysInYear (yearOfDayNumber number).1
      ∧ ((yearOfDayNumber number).1 ≤ 9999 ↔ number < calendarDays) := by
  obtain ⟨era, century, four, single, days, rfl, centuryBound, fourBound, singleBound, within⟩ :=
    exists_position number
  rw [yearOfDayNumber_position centuryBound fourBound singleBound within]
  refine ⟨by omega, ?_, by unfold calendarDays; omega⟩
  unfold daysInYear
  split
  · omega
  · next common =>
    simp only [isLeapYear, Bool.and_eq_true, Bool.or_eq_true, decide_eq_true_eq] at common
    omega

/-- A day within the lengths of some months lies in one of them. -/
theorem monthAndDay_bounds :
    ∀ (lengths : List Nat) (month days : Nat),
      days < lengths.foldr (· + ·) 0 →
      ∃ index, (monthAndDay lengths month days).1 = month + index
        ∧ 1 ≤ (monthAndDay lengths month days).2
        ∧ (monthAndDay lengths month days).2 ≤ lengths[index]?.getD 0
  | [], _, _, within => absurd within (Nat.not_lt_zero _)
  | length :: lengths, month, days, within => by
      unfold monthAndDay
      split
      · exact ⟨0, by simp; omega⟩
      · obtain ⟨index, following, positive, bound⟩ :=
          monthAndDay_bounds lengths (month + 1) (days - length) (by simp at within; omega)
        exact ⟨index + 1, by omega, positive, by simpa using bound⟩

/-- The months of a year have the days of the year. -/
theorem sum_monthLengths (year : Nat) :
    (monthLengths (isLeapYear year)).foldr (· + ·) 0 = daysInYear year := by
  unfold daysInYear
  cases isLeapYear year <;> rfl

/-- Year, month and day that name no date. -/
theorem of?_eq_none_iff (year month day : Nat) :
    of? year month day = none ↔ ¬IsDate year month day := by
  unfold of?
  split
  · next isDate => simp [isDate]
  · next noDate => simp [noDate]

/-- The calendar has no date of a day number exactly if the number is none of its days. -/
theorem ofDayNumber?_eq_none_iff (number : Nat) :
    ofDayNumber? number = none ↔ calendarDays ≤ number := by
  obtain ⟨positive, inYear, inCalendar⟩ := yearOfDayNumber_bounds number
  simp only [ofDayNumber?]
  generalize yearOfDayNumber number = position at positive inYear inCalendar ⊢
  obtain ⟨year, days⟩ := position
  rw [← sum_monthLengths] at inYear
  obtain ⟨index, month, first, last⟩ :=
    monthAndDay_bounds (monthLengths (isLeapYear year)) 1 days inYear
  have isDate : IsDate year (monthAndDay (monthLengths (isLeapYear year)) 1 days).1
      (monthAndDay (monthLengths (isLeapYear year)) 1 days).2 ↔ year ≤ 9999 := by
    rw [month, Nat.add_comm]
    exact ⟨fun isDate => isDate.1.2,
      fun bound => ⟨⟨positive, bound⟩, Nat.le_add_left 1 index, first, last⟩⟩
  rw [of?_eq_none_iff, isDate, inCalendar, Nat.not_lt]

/-- The year of a day number and the days of that year before it make up the day number. -/
theorem daysBeforeYear_yearOfDayNumber (number : Nat) :
    daysBeforeYear (yearOfDayNumber number).1 + (yearOfDayNumber number).2 = number := by
  obtain ⟨era, century, four, single, days, rfl, centuryBound, fourBound, singleBound, within⟩ :=
    exists_position number
  rw [yearOfDayNumber_position centuryBound fourBound singleBound within]
  simp only [daysBeforeYear]
  omega

/-- The months before a month and the days of that month before a day make up the days that gave
the month and the day. -/
theorem sum_take_monthAndDay :
    ∀ (lengths : List Nat) (month days : Nat),
      days < lengths.foldr (· + ·) 0 →
      ∃ index, (monthAndDay lengths month days).1 = month + index
        ∧ (lengths.take index).foldr (· + ·) 0 + ((monthAndDay lengths month days).2 - 1) = days
  | [], _, _, within => absurd within (Nat.not_lt_zero _)
  | length :: lengths, month, days, within => by
      unfold monthAndDay
      split
      · exact ⟨0, by simp⟩
      · obtain ⟨index, following, total⟩ :=
          sum_take_monthAndDay lengths (month + 1) (days - length) (by simp at within; omega)
        refine ⟨index + 1, by omega, ?_⟩
        rw [List.take_succ_cons, List.foldr_cons]
        omega

/-- The date of a day number has that day number. -/
theorem dayNumber_of_ofDayNumber?
    {number : Nat}
    {date : Date}
    (found : ofDayNumber? number = some date) : date.dayNumber = number := by
  have total := daysBeforeYear_yearOfDayNumber number
  obtain ⟨-, inYear, -⟩ := yearOfDayNumber_bounds number
  rw [← sum_monthLengths] at inYear
  obtain ⟨index, month, days⟩ := sum_take_monthAndDay _ 1 _ inYear
  simp only [ofDayNumber?, of?] at found
  split at found
  · cases found
    simp only [dayNumber, daysBeforeMonth, month, Nat.add_sub_cancel_left]
    omega
  · cases found

end Date

/-- The first day of the year 2025 is a date. -/
theorem isDate_firstOf2025 : IsDate 2025 1 1 := by decide

/-- The microseconds of a wall clock give the wall clock. -/
@[simp]
theorem WallClock.ofMicroseconds?_microseconds (clock : WallClock) :
    WallClock.ofMicroseconds? clock.microseconds = some clock := by
  have inDay := clock.time.microseconds_lt_perDay
  have days :
      clock.microseconds / TimeOfDay.perDay = clock.date.dayNumber := by
    simp only [WallClock.microseconds, TimeOfDay.perDay] at inDay ⊢
    omega
  have time : clock.microseconds % TimeOfDay.perDay = clock.time.microseconds := by
    simp only [WallClock.microseconds, TimeOfDay.perDay] at inDay ⊢
    omega
  have notBefore : ¬(clock.microseconds : Int) < 0 := by omega
  simp [WallClock.ofMicroseconds?, notBefore, days, time]

/-- A moment told in UTC is the moment. -/
@[simp]
theorem Moment.moment?_toDateTime (moment : Moment) :
    moment.toDateTime.moment? = some moment := by
  simp [Moment.toDateTime, DateTime.moment?, DateTime.instant, Offset.microseconds, Offset.utc]

/-- No wall clock is that many microseconds after the first moment exactly if the number is before
the calendar or behind it. -/
theorem WallClock.ofMicroseconds?_eq_none_iff (microseconds : Int) :
    WallClock.ofMicroseconds? microseconds = none ↔
      microseconds < 0 ∨ (Date.calendarDays * TimeOfDay.perDay : Nat) ≤ microseconds := by
  unfold WallClock.ofMicroseconds?
  split
  · next before => simp [before]
  · next notBefore =>
    rw [Option.map_eq_none_iff, Date.ofDayNumber?_eq_none_iff]
    simp only [Date.calendarDays, TimeOfDay.perDay]
    omega

/-- The wall clock of a number of microseconds counts that many. -/
theorem WallClock.microseconds_of_ofMicroseconds?
    {microseconds : Int}
    {clock : WallClock}
    (found : WallClock.ofMicroseconds? microseconds = some clock) :
    (clock.microseconds : Int) = microseconds := by
  unfold WallClock.ofMicroseconds? at found
  split at found
  · cases found
  · obtain ⟨date, isDate, rfl⟩ := Option.map_eq_some_iff.mp found
    have time (rest : Nat) (inDay : rest < TimeOfDay.perDay) :
        (TimeOfDay.ofMicroseconds rest).microseconds = rest := by
      simp only [TimeOfDay.perDay] at inDay
      simp only [TimeOfDay.ofMicroseconds, TimeOfDay.microseconds, Fin.ofNat]
      omega
    rw [WallClock.microseconds, Date.dayNumber_of_ofDayNumber? isDate,
      time _ (Nat.mod_lt _ (by decide)), Nat.div_add_mod']
    omega

/-- UTC does not tell a datetime exactly if UTC is before the calendar or behind it. -/
theorem DateTime.moment?_eq_none_iff (datetime : DateTime) :
    datetime.moment? = none ↔
      datetime.instant < 0
        ∨ (Date.calendarDays * TimeOfDay.perDay : Nat) ≤ datetime.instant := by
  rw [DateTime.moment?, Option.map_eq_none_iff, WallClock.ofMicroseconds?_eq_none_iff]

/-- The moment of a datetime is the same instant, told in UTC. -/
theorem DateTime.instant_of_moment?
    {datetime : DateTime}
    {moment : Moment}
    (told : datetime.moment? = some moment) :
    moment.toDateTime.instant = datetime.instant := by
  obtain ⟨wall, found, rfl⟩ := Option.map_eq_some_iff.mp told
  have same := WallClock.microseconds_of_ofMicroseconds? found
  simpa [Moment.toDateTime, DateTime.instant, Offset.microseconds, Offset.utc] using same

end Fulfilment
