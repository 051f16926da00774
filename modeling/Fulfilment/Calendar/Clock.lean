import Fulfilment.Calendar.Date

/-!
# Wall clocks

A time of day to the microsecond, and a date with a time of day.  A wall clock is counted in
microseconds from 0001-01-01T00:00:00.
-/

namespace Fulfilment

/-- A time of day. -/
structure TimeOfDay where
  hour : Fin 24
  minute : Fin 60
  second : Fin 60
  microsecond : Fin 1000000
deriving DecidableEq, Repr

namespace TimeOfDay

/-- The beginning of a day. -/
def midnight : TimeOfDay := ⟨0, 0, 0, 0⟩

/-- The microseconds since midnight. -/
def microseconds (time : TimeOfDay) : Nat :=
  ((time.hour.val * 60 + time.minute.val) * 60 + time.second.val) * 1000000
    + time.microsecond.val

/-- The microseconds of a day. -/
def perDay : Nat := 86400000000

/-- The time of day that is a number of microseconds after midnight. -/
def ofMicroseconds (microseconds : Nat) : TimeOfDay where
  hour := Fin.ofNat 24 (microseconds / 3600000000)
  minute := Fin.ofNat 60 (microseconds / 60000000)
  second := Fin.ofNat 60 (microseconds / 1000000)
  microsecond := Fin.ofNat 1000000 microseconds

/-- A time of day is less than a day. -/
theorem microseconds_lt_perDay (time : TimeOfDay) :
    time.microseconds < perDay := by
  have := time.hour.isLt
  have := time.minute.isLt
  have := time.second.isLt
  have := time.microsecond.isLt
  simp only [microseconds, perDay]
  omega

/-- The count of a time of day gives it back. -/
@[simp]
theorem ofMicroseconds_microseconds (time : TimeOfDay) :
    ofMicroseconds time.microseconds = time := by
  obtain ⟨⟨hour, _⟩, ⟨minute, _⟩, ⟨second, _⟩, ⟨microsecond, _⟩⟩ := time
  simp only [ofMicroseconds, microseconds, Fin.ofNat, TimeOfDay.mk.injEq, Fin.mk.injEq]
  omega

end TimeOfDay

/-- A date and a time of day, without saying where. -/
structure WallClock where
  date : Date
  time : TimeOfDay
deriving DecidableEq, Repr

namespace WallClock

/-- The microseconds since the first moment of the calendar. -/
def microseconds (clock : WallClock) : Nat :=
  clock.date.dayNumber * TimeOfDay.perDay + clock.time.microseconds

/-- The wall clock that is a number of microseconds after the first moment of the calendar, if
the calendar reaches that far. -/
def ofMicroseconds? (microseconds : Int) : Option WallClock :=
  if microseconds < 0 then none
  else
    (Date.ofDayNumber? (microseconds.toNat / TimeOfDay.perDay)).map fun date =>
      ⟨date, .ofMicroseconds (microseconds.toNat % TimeOfDay.perDay)⟩

end WallClock

end Fulfilment
