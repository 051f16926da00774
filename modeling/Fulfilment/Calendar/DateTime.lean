import Fulfilment.Calendar.Clock

/-!
# Datetimes

A datetime is a wall clock with the offset from UTC that it is told in, if that is known.  One
without an offset is taken as UTC.  A moment is told by its UTC wall clock.
-/

namespace Fulfilment

/-- An offset from UTC of less than a day in whole minutes. -/
structure Offset where
  minutes : Int
  bounds : -1440 < minutes ∧ minutes < 1440
deriving DecidableEq, Repr

namespace Offset

/-- No offset. -/
def utc : Offset := ⟨0, by decide⟩

/-- The offset of a number of minutes, if it is less than a day. -/
def of? (minutes : Int) : Option Offset :=
  if bounds : -1440 < minutes ∧ minutes < 1440 then some ⟨minutes, bounds⟩ else none

/-- The microseconds by which the wall clock is ahead of UTC. -/
def microseconds (offset : Offset) : Int := offset.minutes * 60000000

end Offset

/-- A moment of the calendar, told by its UTC wall clock. -/
structure Moment where
  wall : WallClock
deriving DecidableEq, Repr

/-- A wall clock with its offset from UTC, if known. -/
structure DateTime where
  wall : WallClock
  offset : Option Offset
deriving DecidableEq, Repr

namespace DateTime

/-- The microseconds of UTC since the first moment of the calendar; negative before it. -/
def instant (datetime : DateTime) : Int :=
  (datetime.wall.microseconds : Int) - (datetime.offset.elim 0 Offset.microseconds)

/-- The moment of a datetime, if its UTC wall clock is in the calendar. -/
def moment? (datetime : DateTime) : Option Moment :=
  (WallClock.ofMicroseconds? datetime.instant).map Moment.mk

end DateTime

namespace Moment

/-- The datetime of a moment, told in UTC. -/
def toDateTime (moment : Moment) : DateTime :=
  ⟨moment.wall, some .utc⟩

end Moment

end Fulfilment
