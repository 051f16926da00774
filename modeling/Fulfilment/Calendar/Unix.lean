import Fulfilment.Calendar.Text
import Fulfilment.Number.Decimal

/-!
# Unix times

A number is a Unix time in seconds, or in milliseconds if its size is above 2 · 10¹⁰.  Whole
numbers are exact, and so is the floor of a double; its distance from the floor and the count of
microseconds in that are doubles again, and the count is rounded to the nearest, a half up.
-/

namespace Fulfilment
namespace DateTime

open Number

/-- The greatest size of a number of seconds. -/
def greatestSeconds : Int := 20000000000

/-- The microseconds from the first moment of the calendar to 1970-01-01. -/
def unixEpoch : Int := 62135596800000000

/-- The moment that lies a number of microseconds after 1970-01-01, told in UTC. -/
def ofUnixMicroseconds? (microseconds : Int) : Option DateTime :=
  (WallClock.ofMicroseconds? (unixEpoch + microseconds)).map fun wall => ⟨wall, some .utc⟩

/-- The datetime of a whole number. -/
def unixMicrosecondsOfInteger (number : Int) : Int :=
  if number.natAbs ≤ greatestSeconds.natAbs then number * 1000000 else number * 1000

/-- The nearest double to a ratio. -/
def nearestRatio
    (numerator : Int)
    (denominator : Nat) : Double :=
  .nearest (numerator < 0) numerator.natAbs denominator

/-- The microseconds since 1970-01-01 of a double, if it is finite. -/
def unixMicrosecondsOfDouble? (number : Double) : Option Int := do
  let (numerator, denominator) ← number.ratio?
  let unit : Nat :=
    if numerator.natAbs ≤ greatestSeconds.natAbs * denominator then 1000000 else 1000
  let whole := Int.fdiv numerator denominator
  let (part, partDenominator) ←
    (nearestRatio (numerator - whole * denominator) denominator).ratio?
  let (scaled, scaledDenominator) ← (nearestRatio (part * unit) partDenominator).ratio?
  return whole * unit + Double.roundHalfUp scaled.toNat scaledDenominator

/-- The microseconds since 1970-01-01 of the first moment of the year zero. -/
def yearZero : Int := -62167219200000000

/-- Whether a count of microseconds since 1970-01-01 lies in the year zero. -/
def isInYearZero (microseconds : Int) : Bool :=
  yearZero ≤ microseconds && microseconds < -unixEpoch

/-- The greatest size of the whole part of a written number. -/
def greatestWhole : Nat := 9223372036854775807

/-- The microseconds since 1970-01-01 of a written number: an optional sign and digits, or a decimal
with a point, which may have an exponent. -/
def unixMicrosecondsOfText? (characters : List Char) : Option Int := do
  let (negative, body) := splitSign characters
  let digits := body.takeWhile Char.isDigit
  let whole ← digitsValue? digitValue? digits
  if greatestWhole < whole then none
  else
    match body.dropWhile Char.isDigit with
    | [] => if digits = [] then none else some (unixMicrosecondsOfInteger (signed negative whole))
    | '.' :: _ => (decimal? negative body).bind unixMicrosecondsOfDouble?
    | _ => none

/-- The datetime of a text that is a number, or else has the form of a datetime. -/
def ofTextOrUnix (characters : List Char) : Except Fault DateTime :=
  match unixMicrosecondsOfText? characters with
  | some microseconds =>
      match ofUnixMicroseconds? microseconds with
      | some datetime => .ok datetime
      | none => .error (if isInYearZero microseconds then .yearZero else .form)
  | none => ofText characters

end DateTime
end Fulfilment
