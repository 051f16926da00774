import Fulfilment.Host.Letter
import Fulfilment.Host.Punycode
import Fulfilment.Text.Composition
import Fulfilment.Text.Direction
import Fulfilment.Text.LowerCase
import Fulfilment.Text.Script

/-!
# Labels of host names

A label is one of the names that dots separate in the name of a host.  It is composed, neither
begins nor ends with a hyphen, has no two hyphens as its third and fourth character, does not begin
with a mark, and reads in one direction.  A few of its characters need certain neighbours.
-/

namespace Fulfilment
namespace Host

/-- Whether the letters around a place would join: the characters before it are told backwards. -/
def joinsAround (before after : List Char) : Bool :=
  ((before.dropWhile Text.isSeenThrough).head?.any Text.joinsNext)
    && ((after.dropWhile Text.isSeenThrough).head?.any Text.joinsPrevious)

/-- Whether a silencing mark stands directly before a place. -/
def followsVirama (before : List Char) : Bool :=
  before.head?.any fun mark => Text.combiningClass mark = Text.viramaClass

/-- The digits of the Arabic script. -/
def isArabicDigit (character : Char) : Bool :=
  '\u0660' ≤ character && character ≤ '\u0669'

/-- The digits of the Arabic script as the East writes them. -/
def isEasternDigit (character : Char) : Bool :=
  '\u06F0' ≤ character && character ≤ '\u06F9'

/-- Whether a character may stand at its place in a label.  What is before it is told backwards. -/
def mayStand
    (label before : List Char)
    (character : Char)
    (after : List Char) : Bool :=
  if character = '\u200C' then followsVirama before || joinsAround before after
  else if character = '\u200D' then followsVirama before
  else if character = '\u00B7' then before.head? = some 'l' && after.head? = some 'l'
  else if character = '\u0375' then after.head?.any Text.isGreek
  else if character = '\u05F3' ∨ character = '\u05F4' then before.head?.any Text.isHebrew
  else if character = '\u30FB' then label.any Text.isEastAsian
  else if isArabicDigit character then !label.any isEasternDigit
  else if isEasternDigit character then !label.any isArabicDigit
  else isLetter character

/-- Whether the characters from a place on may stand where they do. -/
def allMayStand (label : List Char) : (before after : List Char) → Bool
  | _, [] => true
  | before, character :: after =>
      mayStand label before character after && allMayStand label (character :: before) after

/-- Whether the hyphens of a label stand where they may. -/
def hasGoodHyphens (label : List Char) : Bool :=
  (label.drop 2).take 2 ≠ ['-', '-'] && label.head? ≠ some '-' && label.getLast? ≠ some '-'

/-- Whether a label is written in one direction.  One to the left begins with a letter, ends with a
letter or a digit and the marks on it, and has the digits of one kind only. -/
def hasOneDirection (label : List Char) : Bool :=
  let directions := label.map Text.direction
  let has (direction : Text.Direction) : Bool := directions.contains direction
  if !has .toLeft && !has .arabic then true
  else
    directions.head? = some .toLeft && !has .toRight && !(has .european && has .arabic)
      && (directions.reverse.dropWhile (· = .mark)).head?.all (· ≠ .neutral)

/-- A label that is written with its own letters. -/
def isPlainLabel (label : List Char) : Bool :=
  label ≠ [] && Text.isComposed label && hasGoodHyphens label
    && !label.head?.any Text.isMark && allMayStand label [] label && hasOneDirection label

/-- What an encoded label begins with. -/
def encodedMark : List Char := "xn--".toList

/-- The letters of an encoded label behind its mark. -/
def decodedLabel? (encoded : List Char) : Option (List Char) :=
  if encoded = [] ∨ encoded.getLast? = some '-' then none else Punycode.decode? encoded

/-- A label in lower case. -/
def isLabel (label : List Char) : Bool :=
  if encodedMark.isPrefixOf label ∧ label.all (·.toNat < Punycode.firstCode) then
    (decodedLabel? (label.drop encodedMark.length)).any isPlainLabel
  else isPlainLabel label

/-- A label as it is sent: encoded if it has characters beyond ASCII. -/
def encodedLabel (label : List Char) : List Char :=
  if label.all (·.toNat < Punycode.firstCode) then label
  else encodedMark ++ Punycode.encode label

end Host
end Fulfilment
