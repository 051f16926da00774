import Fulfilment.Calendar.DateTime
import Fulfilment.Number.Shortest

/-!
# Datetime text

Datetimes are written as `YYYY-MM-DDTHH:MM:SS`, six digits of the second if they are not all zero,
and the offset.  Reading also takes a date alone, a time without seconds, other separators, any
number of digits of the second and several spellings of the offset.
-/

namespace Fulfilment
namespace DateTime

/-- The decimal digits of a number, padded with zeros to a width. -/
def paddedDigits (width value : Nat) : List Char :=
  Number.padLeft width (Number.decimalDigits value)

/-- How the offset zero is written. -/
inductive ZeroOffset where
  | letter
  | digits
deriving DecidableEq, Repr

/-- The text of a wall clock. -/
def wallText (wall : WallClock) : List Char :=
  let date := wall.date
  let time := wall.time
  let fraction :=
    if time.microsecond.val = 0 then [] else '.' :: paddedDigits 6 time.microsecond.val
  paddedDigits 4 date.year ++ '-' :: paddedDigits 2 date.month ++ '-' :: paddedDigits 2 date.day
    ++ 'T' :: paddedDigits 2 time.hour.val ++ ':' :: paddedDigits 2 time.minute.val
    ++ ':' :: paddedDigits 2 time.second.val ++ fraction

/-- The text of an offset: a sign, hours and minutes. -/
def offsetText
    (zero : ZeroOffset)
    (offset : Offset) : List Char :=
  if offset.minutes = 0 ∧ zero = .letter then ['Z']
  else
    let size := offset.minutes.natAbs
    (if offset.minutes < 0 then '-' else '+') :: paddedDigits 2 (size / 60)
      ++ ':' :: paddedDigits 2 (size % 60)

/-- The text of a datetime. -/
def text
    (zero : ZeroOffset)
    (datetime : DateTime) : List Char :=
  wallText datetime.wall ++ datetime.offset.elim [] (offsetText zero)

/-- Why a text is no datetime: it has the form of one in the year zero, or another fault. -/
inductive Fault where
  | form
  | yearZero
deriving DecidableEq, Repr

/-- A number of exactly two digits at the head of a text. -/
def twoDigits? (characters : List Char) : Option (Nat × List Char) :=
  match characters with
  | first :: second :: rest => do
      let tens ← Number.digitValue? first
      let units ← Number.digitValue? second
      return (tens * 10 + units, rest)
  | _ => none

/-- A number of exactly four digits at the head of a text. -/
def fourDigits? (characters : List Char) : Option (Nat × List Char) := do
  let (upper, rest) ← twoDigits? characters
  let (lower, rest) ← twoDigits? rest
  return (upper * 100 + lower, rest)

/-- The rest of a text behind a given first character. -/
def after?
    (expected : Char)
    (characters : List Char) : Option (List Char) :=
  match characters with
  | first :: rest => if first = expected then some rest else none
  | [] => none

/-- A date at the head of a text, as year, month and day. -/
def dateParts? (characters : List Char) : Option ((Nat × Nat × Nat) × List Char) := do
  let (year, rest) ← fourDigits? characters
  let rest ← after? '-' rest
  let (month, rest) ← twoDigits? rest
  let rest ← after? '-' rest
  let (day, rest) ← twoDigits? rest
  return ((year, month, day), rest)

/-- Digits of a second as microseconds: six count, further ones are dropped. -/
def fractionValue : Nat → List Char → Nat
  | 0, _ => 0
  | _ + 1, [] => 0
  | width + 1, character :: rest =>
      (character.toNat - 48) * Nat.pow 10 width + fractionValue width rest

/-- The fraction of a second at the head of a text, if one is begun. -/
def fraction? (characters : List Char) : Option (Nat × List Char) :=
  match characters with
  | first :: rest =>
      if first = '.' ∨ first = ',' then
        let digits := rest.takeWhile Char.isDigit
        if digits = [] then none
        else some (fractionValue 6 digits, rest.dropWhile Char.isDigit)
      else some (0, characters)
  | [] => some (0, [])

/-- Seconds and their fraction at the head of a text, if they are begun. -/
def seconds? (characters : List Char) : Option ((Nat × Nat) × List Char) :=
  match characters with
  | ':' :: rest => do
      let (second, rest) ← twoDigits? rest
      let (microsecond, rest) ← fraction? rest
      return ((second, microsecond), rest)
  | _ => some ((0, 0), characters)

/-- A time of day at the head of a text. -/
def time? (characters : List Char) : Option (TimeOfDay × List Char) := do
  let (hour, rest) ← twoDigits? characters
  let rest ← after? ':' rest
  let (minute, rest) ← twoDigits? rest
  let ((second, microsecond), rest) ← seconds? rest
  if bounds : hour < 24 ∧ minute < 60 ∧ second < 60 ∧ microsecond < 1000000 then
    return (⟨⟨hour, bounds.1⟩, ⟨minute, bounds.2.1⟩, ⟨second, bounds.2.2.1⟩,
      ⟨microsecond, bounds.2.2.2⟩⟩, rest)
  else none

/-- The size of an offset: hours and minutes, a colon between them or none. -/
def offsetSize? (characters : List Char) : Option Nat := do
  let (hours, rest) ← twoDigits? characters
  let (minutes, rest) ← twoDigits? ((after? ':' rest).getD rest)
  if rest = [] ∧ hours < 24 ∧ minutes < 60 then return hours * 60 + minutes else none

/-- The offset that a text ends with: none, the letter of UTC, or a sign with hours and minutes. -/
def offset? (characters : List Char) : Option (Option Offset) :=
  match characters with
  | [] => some none
  | first :: rest =>
      if (first = 'Z' ∨ first = 'z') ∧ rest = [] then some (some .utc)
      else if first = '+' then
        (offsetSize? rest).bind fun size => (Offset.of? size).map some
      else if first = '-' ∨ first = '\u2212' then
        (offsetSize? rest).bind fun size => (Offset.of? (-(size : Int))).map some
      else none

/-- The characters that may separate date and time. -/
def isSeparator (character : Char) : Bool :=
  character = 'T' || character = 't' || character = '_' || character = ' '

/-- The time and offset behind a date: midnight without an offset if the text ends there. -/
def timeAndOffset? (characters : List Char) : Option (TimeOfDay × Option Offset) :=
  match characters with
  | [] => some (.midnight, none)
  | separator :: rest =>
      if isSeparator separator then do
        let (time, rest) ← time? rest
        let offset ← offset? rest
        return (time, offset)
      else none

/-- The datetime of a text. -/
def ofText (characters : List Char) : Except Fault DateTime :=
  match dateParts? characters with
  | none => .error .form
  | some ((year, month, day), rest) =>
      match timeAndOffset? rest with
      | none => .error .form
      | some (time, offset) =>
          if year = 0 then
            if 1 ≤ day ∧ day ≤ daysInMonth 0 month then .error .yearZero else .error .form
          else
            match Date.of? year month day with
            | some date => .ok ⟨⟨date, time⟩, offset⟩
            | none => .error .form

end DateTime
end Fulfilment
