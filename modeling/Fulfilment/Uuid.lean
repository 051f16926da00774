import Fulfilment.Text.Hex

/-!
# Identifiers

A universally unique identifier is thirty-two hexadecimal digits, written in lower case in groups
of 8, 4, 4, 4 and 12.  It is read in either case, with or without the hyphens, and the grouped
form also inside braces or behind `urn:uuid:`.
-/

namespace Fulfilment

/-- A universally unique identifier. -/
structure Uuid where
  digits : List (Fin 16)
  length_digits : digits.length = 32
deriving DecidableEq, Repr

namespace Uuid

/-- The lengths of the hyphenated groups. -/
def groups : List Nat := [8, 4, 4, 4, 12]

/-- Cut a list into pieces of the given lengths with a separator between them. -/
def hyphenate : List Nat → List Char → List Char
  | [], characters => characters
  | [length], characters => characters.take length
  | length :: lengths, characters =>
      characters.take length ++ '-' :: hyphenate lengths (characters.drop length)

/-- Take the separators out of a list that is cut into pieces of the given lengths. -/
def unhyphenate? : List Nat → List Char → Option (List Char)
  | [], characters => if characters = [] then some [] else none
  | [length], characters => if characters.length = length then some characters else none
  | length :: lengths, characters =>
      match characters.drop length with
      | '-' :: rest => (unhyphenate? lengths rest).map (characters.take length ++ ·)
      | _ => none

/-- The characters of the written form. -/
def characters (uuid : Uuid) : List Char :=
  hyphenate groups (uuid.digits.map Text.hexDigit)

/-- The written form. -/
def text (uuid : Uuid) : String :=
  String.ofList uuid.characters

/-- The identifier of thirty-two digits. -/
def ofDigits? (characters : List Char) : Option Uuid := do
  let digits ← characters.mapM Text.hexValue?
  if length_digits : digits.length = 32 then return ⟨digits, length_digits⟩ else none

/-- The identifier of a hyphenated form. -/
def ofGroups? (characters : List Char) : Option Uuid :=
  (unhyphenate? groups characters).bind ofDigits?

/-- The identifier that a list of characters spells. -/
def ofCharacters? (characters : List Char) : Option Uuid :=
  match characters.length with
  | 32 => ofDigits? characters
  | 36 => ofGroups? characters
  | 38 =>
      if characters.head? = some '\x7b' ∧ characters.getLast? = some '\x7d' then
        ofGroups? (characters.drop 1).dropLast
      else none
  | 45 => if characters.take 9 = "urn:uuid:".toList then ofGroups? (characters.drop 9) else none
  | _ => none

/-- The identifier that a text spells. -/
def ofText? (text : String) : Option Uuid :=
  ofCharacters? text.toList

/-- The identifier `00000000-0000-4000-8000-` with a number as its last twelve digits. -/
def numbered (number : Nat) : Uuid where
  digits := Text.hexDigits 12 0 ++ Text.hexDigits 8 0x40008000 ++ Text.hexDigits 12 number
  length_digits := by simp

/-- The order of the written forms. -/
def le (left right : Uuid) : Bool :=
  !(right.digits < left.digits)

end Uuid

end Fulfilment
