import Fulfilment.Text.Blank
import Fulfilment.Text.Digit

/-!
# Spellings of whole numbers

A whole number is written with its digits after a minus sign if it is negative.  There are two
generous ways to read one, both with white space around it, one optional sign and single
underscores inside.  A plain spelling may use the digits of any script.  A lax spelling may end in
a fraction of zeros, and leading zeros, with any underscores among them, are passed over: what
follows them is read as if it stood alone.  Numbers with too many digits are not read.
-/

namespace Fulfilment
namespace Number

/-- The most digits of a whole number that is read. -/
def mostDigits : Nat := 4300

/-- Why a spelling stands for no whole number: it has another form, or too many digits. -/
inductive SpellingFault where
  | form
  | tooLong (digits : Nat)
deriving DecidableEq, Repr

/-- The value of an ASCII digit. -/
abbrev digitValue? : Char → Option Nat := Text.asciiDigit?

/-- The value of digits, which may be none. -/
def digitsValue?
    (digit? : Char → Option Nat)
    (characters : List Char) : Option Nat :=
  characters.foldlM (fun value character => (digit? character).map (value * 10 + ·)) 0

/-- Drop the underscores of a text, read on; the flag tells whether another character must
follow. -/
def dropUnderscoresFrom? : (mustFollow : Bool) → List Char → Option (List Char)
  | true, [] => none
  | false, [] => some []
  | mustFollow, character :: rest =>
      if character = '_' then
        if mustFollow then none else dropUnderscoresFrom? true rest
      else (dropUnderscoresFrom? false rest).map (character :: ·)

/-- A text without its underscores, if each of them stands between two other characters. -/
def dropUnderscores? (characters : List Char) : Option (List Char) :=
  dropUnderscoresFrom? true characters

/-- Split off one leading sign. -/
def splitSign (characters : List Char) : Bool × List Char :=
  match characters with
  | '+' :: rest => (false, rest)
  | '-' :: rest => (true, rest)
  | rest => (false, rest)

/-- A magnitude with its sign. -/
def signed
    (negative : Bool)
    (magnitude : Nat) : Int :=
  if negative then -(magnitude : Int) else (magnitude : Int)

/-- The decimal digits of a number. -/
def decimalDigits (value : Nat) : List Char :=
  Nat.toDigits 10 value

/-- The written form of a whole number. -/
def integerText (value : Int) : List Char :=
  if value < 0 then '-' :: decimalDigits value.natAbs else decimalDigits value.natAbs

/-- What follows leading zeros and the underscores among them.  It begins with another digit or a
minus sign; before a point and at the end of the text the last of the passed characters is kept. -/
def behindZeros? : (last : Char) → List Char → Option (List Char)
  | last, [] => some [last]
  | last, character :: rest =>
      if character = '0' ∨ character = '_' then behindZeros? character rest
      else if character.isDigit ∨ character = '-' then some (character :: rest)
      else if character = '.' then some (last :: character :: rest)
      else none

/-- A text that begins with a digit, without its leading zeros. -/
def dropLeadingZeros? (characters : List Char) : Option (List Char) :=
  match characters with
  | [] => none
  | first :: rest =>
      if first = '0' then behindZeros? first rest
      else if first.isDigit then some (first :: rest)
      else none

/-- Drop a point followed by one or more zeros, which end the text. -/
def dropZeroFraction (characters : List Char) : List Char :=
  match characters.dropWhile (· ≠ '.') with
  | '.' :: '0' :: zeros =>
      if zeros.all (· = '0') then characters.takeWhile (· ≠ '.') else characters
  | _ => characters

/-- The whole number of its written form.  The digits are counted before anything that follows
them is looked at. -/
def ofIntegerText (characters : List Char) : Except SpellingFault Int :=
  let (negative, body) :=
    match characters with
    | '-' :: rest => (true, rest)
    | rest => (false, rest)
  let digits := body.takeWhile Char.isDigit
  if digits.head? = some '0' ∧ digits ≠ ['0'] then .error .form
  else if mostDigits < digits.length then .error (.tooLong digits.length)
  else if digits = [] ∨ digits ≠ body then .error .form
  else
    match digitsValue? digitValue? digits with
    | some value => .ok (signed negative value)
    | none => .error .form

/-- The written form that a lax spelling is generous about: without the white space around it, a
plus sign, leading zeros, a fraction of zeros and underscores. -/
def bareText? (characters : List Char) : Option (List Char) :=
  let (negative, body) := splitSign (Text.trimBy Text.isWhiteSpace characters)
  (dropLeadingZeros? body).map fun bare =>
    let bare := dropZeroFraction (if negative then '-' :: bare else bare)
    (dropUnderscores? bare).getD bare

/-- The whole number that a lax spelling stands for.  A text is first taken as a written form, and
only there too many digits are told from a wrong form. -/
def ofLaxText (text : String) : Except SpellingFault Int :=
  match ofIntegerText text.toList with
  | .ok value => .ok value
  | .error (.tooLong digits) => .error (.tooLong digits)
  | .error .form =>
      match (bareText? text.toList).map ofIntegerText with
      | some (.ok value) => .ok value
      | _ => .error .form

/-- The whole number of a plain spelling.  Leading zeros count as digits, and the digits are counted
before anything that follows them is looked at. -/
def ofPlainText (text : String) : Except SpellingFault Int :=
  let (negative, body) := splitSign (Text.trimBy Text.isWhiteSpace text.toList)
  let inNumber (character : Char) : Bool :=
    (Text.decimalValue? character).isSome || character = '_'
  match dropUnderscores? (body.takeWhile inNumber) with
  | none => .error .form
  | some digits =>
      if mostDigits < digits.length then .error (.tooLong digits.length)
      else if !body.all inNumber then .error .form
      else
        match digitsValue? Text.decimalValue? digits with
        | some value => .ok (signed negative value)
        | none => .error .form

end Number
end Fulfilment
