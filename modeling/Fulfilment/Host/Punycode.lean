/-!
# Punycode

Text of any script as letters, digits and hyphens.  The characters of ASCII come first, then a
hyphen if there are any; the others follow in the order of their code points, each as the distance
from the one before in code points and places.  Distances are numbers of a variable length whose
digits have thresholds, and the thresholds follow a bias that adapts to the distances seen.
-/

namespace Fulfilment
namespace Host
namespace Punycode

/-- The number of values of a digit. -/
def base : Nat := 36

/-- The first code point beyond ASCII. -/
def firstCode : Nat := 0x80

/-- The bias before the first distance. -/
def firstBias : Nat := 72

/-- The digit of a value: a letter, or from twenty-six on a numeral. -/
def digit (value : Nat) : Char :=
  if value < 26 then Char.ofNat (0x61 + value) else Char.ofNat (0x16 + value)

/-- The value of a digit in lower case. -/
def digitValue? (character : Char) : Option Nat :=
  let code := character.toNat
  if 0x61 ≤ code ∧ code ≤ 0x7A then some (code - 0x61)
  else if 0x30 ≤ code ∧ code ≤ 0x39 then some (code - 0x16)
  else none

/-- The threshold of the digit at a position; positions go in steps of the base. -/
def threshold (bias position : Nat) : Nat :=
  min 26 (max 1 (position - bias))

/-- A threshold lets every digit take something off. -/
theorem threshold_pos (bias position : Nat) : 1 ≤ threshold bias position := by
  unfold threshold
  omega

/-- A distance made small, and how often it was divided for that. -/
def shrink (distance : Nat) : Nat × Nat :=
  if 455 < distance then
    let (small, divisions) := shrink (distance / 35)
    (small, divisions + 1)
  else (distance, 0)
termination_by distance
decreasing_by exact Nat.div_lt_self (by omega) (by omega)

/-- The bias after a distance, when there are so many characters. -/
def adapt
    (distance count : Nat)
    (isFirst : Bool) : Nat :=
  let distance := if isFirst then distance / 700 else distance / 2
  let (small, divisions) := shrink (distance + distance / count)
  base * divisions + 36 * small / (small + 38)

/-- A distance by its digits, from a position on. -/
def writeNumber (bias position number : Nat) : List Char :=
  let least := threshold bias position
  if number < least then [digit number]
  else
    digit (least + (number - least) % (base - least))
      :: writeNumber bias (position + base) ((number - least) / (base - least))
termination_by number
decreasing_by
  have positive := threshold_pos bias position
  have shrinks := Nat.div_le_self (number - threshold bias position)
    (base - threshold bias position)
  omega

/-- What writing carries along: the digits so far, the distance since the last character, the bias,
and the number of characters written. -/
structure Writing where
  digits : List Char
  distance : Nat
  bias : Nat
  count : Nat
deriving DecidableEq, Repr

/-- Pass one character of the text while those of a code point are written. -/
def pass
    (plain code : Nat)
    (writing : Writing)
    (character : Char) : Writing :=
  if character.toNat < code then { writing with distance := writing.distance + 1 }
  else if character.toNat = code then
    { digits := writing.digits ++ writeNumber writing.bias base writing.distance
      distance := 0
      bias := adapt writing.distance (writing.count + 1) (writing.count = plain)
      count := writing.count + 1 }
  else writing

/-- Write the characters of some code points, which ascend, into what is written. -/
def writeCodes
    (plain : Nat)
    (text : List Char)
    (next : Nat)
    (writing : Writing) : List Nat → Writing
  | [] => writing
  | code :: rest =>
      let reached :=
        { writing with distance := writing.distance + (code - next) * (writing.count + 1) }
      let written := text.foldl (pass plain code) reached
      writeCodes plain text (code + 1) { written with distance := written.distance + 1 } rest

/-- A text by letters, digits and hyphens. -/
def encode (text : List Char) : List Char :=
  let plain := text.filter fun character => character.toNat < firstCode
  let codes := ((text.map Char.toNat).filter (firstCode ≤ ·)).mergeSort.eraseDups
  let written := writeCodes plain.length text firstCode ⟨[], 0, firstBias, plain.length⟩ codes
  plain ++ (if plain = [] then [] else ['-']) ++ written.digits

/-- Read a distance with the given weight of its next digit, and what follows it. -/
def readNumber?
    (bias position weight number : Nat) : List Char → Option (Nat × List Char)
  | [] => none
  | character :: rest =>
      (digitValue? character).bind fun value =>
        let least := threshold bias position
        let number := number + value * weight
        if value < least then some (number, rest)
        else readNumber? bias (position + base) (weight * (base - least)) number rest

/-- The greatest code point. -/
def lastCode : Nat := 0x10FFFF

/-- Put the characters told by at most `fuel` distances into a text, from a code point and a place
on. -/
def insertFrom? (plain : Nat) :
    (fuel code place bias : Nat) → (text digits : List Char) → Option (List Char)
  | _, _, _, _, text, [] => some text
  | 0, _, _, _, _, _ :: _ => none
  | fuel + 1, code, place, bias, text, digits =>
      (readNumber? bias base 1 0 digits).bind fun (distance, rest) =>
        let count := text.length + 1
        let code := code + (place + distance) / count
        let place := (place + distance) % count
        if lastCode < code then none
        else
          insertFrom? plain fuel code (place + 1) (adapt distance count (text.length = plain))
            (text.take place ++ Char.ofNat code :: text.drop place) rest

/-- The text of letters, digits and hyphens in lower case. -/
def decode? (characters : List Char) : Option (List Char) :=
  let digits := (characters.reverse.takeWhile (· ≠ '-')).reverse
  let plain := (characters.take (characters.length - digits.length)).dropLast
  insertFrom? plain.length digits.length firstCode 0 firstBias plain digits

end Punycode
end Host
end Fulfilment
