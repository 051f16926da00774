import Fulfilment.Text.Hex
import Fulfilment.Text.Printable

/-!
# Quoted text

A text in single quotes, or in double quotes if it holds single ones and no double ones.  Quotes
of the chosen kind, backslashes and characters that are not printable are escaped, by name or by
the fewest of two, four and eight hexadecimal digits.
-/

namespace Fulfilment
namespace Text

/-- The hexadecimal escape of a character. -/
def hexEscape (character : Char) : List Char :=
  let code := character.toNat
  let (mark, width) :=
    if code < 0x100 then ('x', 2) else if code < 0x10000 then ('u', 4) else ('U', 8)
  '\\' :: mark :: (hexDigits width code).map hexDigit

/-- A character between quotes of the given kind. -/
def quoteCharacter (quote character : Char) : List Char :=
  if character = quote ∨ character = '\\' then ['\\', character]
  else if character = '\t' then ['\\', 't']
  else if character = '\n' then ['\\', 'n']
  else if character = '\r' then ['\\', 'r']
  else if isPrintable character then [character]
  else hexEscape character

/-- The kind of quotes that a text is put into. -/
def quoteOf (characters : List Char) : Char :=
  if characters.contains '\'' && !characters.contains '"' then '"' else '\''

/-- A text in quotes. -/
def quoted (text : String) : List Char :=
  let quote := quoteOf text.toList
  quote :: (text.toList.flatMap (quoteCharacter quote) ++ [quote])

end Text
end Fulfilment
