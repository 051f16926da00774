import Fulfilment.Number.Integer
import Fulfilment.Text.Fields
import Fulfilment.Text.Hex

/-!
# Numeric addresses of hosts

An address of version 4 has four numbers below 256 that dots separate.  One of version 6 has eight
groups of up to four hexadecimal digits that colons separate; two colons stand for groups of zeros,
the last two groups may be written as an address of version 4, and a zone may follow.
-/

namespace Fulfilment
namespace Host

/-- Whether digits are one of the numbers of an address of version 4. -/
def isOctet (digits : List Char) : Bool :=
  digits.length ≤ 3 && (digits = ['0'] || digits.head? ≠ some '0')
    && digits ≠ [] && digits.all Char.isDigit
    && (Number.digitsValue? Number.digitValue? digits).any (· ≤ 255)

/-- An address of version 4. -/
def isVersion4 (characters : List Char) : Bool :=
  let octets := Text.fields (· = '.') characters
  octets.length = 4 && octets.all isOctet

/-- The states after a character of a text that four runs of digits make up, any one character
between two of them.  Even states wait for a run to begin, odd ones are in a run. -/
def numericStep
    (states : List Nat)
    (character : Char) : List Nat :=
  (List.range 8).filter fun next =>
    states.any fun state =>
      if state % 2 = 0 then next = state + 1 && character.isDigit
      else next = state + 1 || (next = state && character.isDigit)

/-- Whether a text has four runs of digits with any one character between two of them.  Such a host
must be an address of version 4. -/
def looksNumeric (characters : List Char) : Bool :=
  (characters.foldl numericStep [0]).contains 7

/-- Whether digits are a group of an address of version 6. -/
def isGroup (digits : List Char) : Bool :=
  digits ≠ [] && digits.length ≤ 4 && digits.all fun digit => (Text.hexValue? digit).isSome

/-- The groups of an address of version 6, an address of version 4 at its end as two of them. -/
def groups? (characters : List Char) : Option (List (List Char)) :=
  let groups := Text.fields (· = ':') characters
  match groups.getLast? with
  | some last =>
      if groups.length < 3 then none
      else if last.contains '.' then
        if isVersion4 last then some (groups.dropLast ++ [['0'], ['0']]) else none
      else some groups
  | none => none

/-- Whether groups make up an address of version 6.  An inner group that is empty stands for zeros;
it is the only empty one, apart from one beside it at either end. -/
def areGroups (groups : List (List Char)) : Bool :=
  let inner := groups.tail.dropLast
  match inner.count [] with
  | 0 => groups.length = 8 && groups.all isGroup
  | 1 =>
      let high := groups.takeWhile (· ≠ [])
      let low := groups.reverse.takeWhile (· ≠ [])
      (groups.head? ≠ some [] || inner.head? = some [])
        && (groups.getLast? ≠ some [] || inner.getLast? = some [])
        && high.length + low.length < 8 && high.all isGroup && low.all isGroup
  | _ => false

/-- An address of version 6, perhaps with a zone behind a percent sign. -/
def isVersion6 (characters : List Char) : Bool :=
  let address := characters.takeWhile (· ≠ '%')
  let isZone : Bool :=
    match characters.dropWhile (· ≠ '%') with
    | [] => true
    | _ :: zone => zone ≠ [] && !zone.contains '%'
  isZone && (groups? address).any areGroups

end Host
end Fulfilment
