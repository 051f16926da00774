import Fulfilment.Calendar.Unix
import Fulfilment.Schema.Reading
import Fulfilment.Uuid

/-!
# Readers of scalars

Which JSON values stand for texts, whole numbers, identifiers and datetimes.
-/

namespace Fulfilment
namespace Schema

open Number

/-- Read a text. -/
def string (value : Json) : Reading String :=
  match value with
  | .scalar (.string text) => .ok text
  | _ => .issue .stringType

/-- The least number that is too large for a whole number of 64 bits with a sign. -/
def signedLimit : Nat := 0x8000000000000000

/-- Read a double as a whole number. -/
def integerOfDouble (number : Double) : Reading Int :=
  match number.ratio? with
  | none => .issue .finiteNumber
  | some (numerator, denominator) =>
      if numerator % (denominator : Int) ≠ 0 then .issue .intFromFloat
      else
        let whole := numerator / (denominator : Int)
        if signedLimit ≤ whole.natAbs then .issue .intParsingSize else .ok whole

/-- Read a lax spelling of a whole number. -/
def integerOfText (text : String) : Reading Int :=
  match ofLaxText text with
  | .ok number => .ok number
  | .error .form => .issue .intParsing
  | .error (.tooLong _) => .issue .intParsingSize

/-- Read a whole number: a number, a truth value as one or zero, or a lax spelling. -/
def integer (value : Json) : Reading Int :=
  match value with
  | .scalar (.integer number) => .ok number
  | .scalar (.bool truth) => .ok (if truth then 1 else 0)
  | .scalar (.real number) => integerOfDouble number
  | .scalar (.string text) => integerOfText text
  | .scalar .null | .array _ | .object _ => .issue .intType

/-- Read a whole number above zero. -/
def positiveInteger (value : Json) : Reading Int :=
  (integer value).andThen fun number =>
    if 0 < number then .ok number else .issue .greaterThan

/-- Check that a whole number has 64 bits without a sign. -/
def word (number : Int) : Reading UInt64 :=
  if number < 0 then .issue .greaterThanEqual
  else if (UInt64.size : Int) ≤ number then .issue .lessThanEqual
  else .ok (UInt64.ofNat number.toNat)

/-- Read a whole number of 64 bits without a sign. -/
def unsigned (value : Json) : Reading UInt64 :=
  (integer value).andThen word

/-- Read an identifier. -/
def uuid (value : Json) : Reading Uuid :=
  match value with
  | .scalar (.string text) => .ofOption .uuidParsing (Uuid.ofText? text)
  | _ => .issue .uuidType

/-- Read a Unix time told in microseconds. -/
def unixTime (microseconds : Option Int) : Reading DateTime :=
  .ofOption .datetimeParsing (microseconds.bind DateTime.ofUnixMicroseconds?)

/-- Read a datetime: its text, or a Unix time. -/
def datetime (value : Json) : Reading DateTime :=
  match value with
  | .scalar (.string text) =>
      match DateTime.ofTextOrUnix text.toList with
      | .ok datetime => .ok datetime
      | .error .yearZero => .issue .datetimeParsing
      | .error .form => .issue .datetimeFromDateParsing
  | .scalar (.integer number) =>
      if -(signedLimit : Int) ≤ number ∧ number < (signedLimit : Int) then
        unixTime (some (DateTime.unixMicrosecondsOfInteger number))
      else .issue .datetimeType
  | .scalar (.real number) => unixTime (DateTime.unixMicrosecondsOfDouble? number)
  | .scalar .null | .scalar (.bool _) | .array _ | .object _ => .issue .datetimeType

/-- Read a datetime as the moment it tells. -/
def moment (value : Json) : Reading Moment :=
  (datetime value).andThen fun datetime =>
    match datetime.moment? with
    | some moment => .ok moment
    | none => .outOfCalendar

end Schema
end Fulfilment
