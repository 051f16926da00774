import Fulfilment.Json.Numeral
import Fulfilment.Number.Shortest
import Fulfilment.Text.Hex

/-!
# JSON tokens

The tokens of a JSON text: brackets, separators and scalars.  A machine reads a text one
character at a time and emits the tokens that each character finishes; a writer gives each token
its shortest spelling.  Between tokens stand spaces, tabs and line ends.
-/

namespace Fulfilment
namespace Json

/-- A token of a JSON text. -/
inductive Token where
  | openArray
  | closeArray
  | openObject
  | closeObject
  | comma
  | colon
  | scalar (value : Scalar)
deriving DecidableEq, Repr

namespace Token

/-- Where a text stands between two of its characters.  An escape of sixteen bits keeps the high
half of a pair that it completes, the value so far, and how many digits follow the next one. -/
inductive TextMode where
  | plain
  | escape
  | unit (high : Option Nat) (value : Nat) (more : Nat)
  | pairStart (high : Nat)
  | pairMark (high : Nat)
deriving DecidableEq, Repr

/-- Where the machine stands: between tokens, or inside a word, a numeral or a text.  The
characters of a word or text are kept last first. -/
inductive State where
  | between
  | word (letters : List Char)
  | numeral (numeral : Numeral)
  | text (characters : List Char) (mode : TextMode)
deriving Repr

/-- The characters that separate tokens. -/
def isSpace (character : Char) : Bool :=
  character = ' ' || character = '\t' || character = '\n' || character = '\r'

/-- The scalar that a word names. -/
def word? (letters : List Char) : Option Scalar :=
  match String.ofList letters.reverse with
  | "null" => some .null
  | "true" => some (.bool true)
  | "false" => some (.bool false)
  | "NaN" => some (.real .nan)
  | "Infinity" => some (.real (.infinite false))
  | "-Infinity" => some (.real (.infinite true))
  | _ => none

/-- The character after a backslash that stands for one character. -/
def escaped? (character : Char) : Option Char :=
  match character with
  | '"' => some '"'
  | '\\' => some '\\'
  | '/' => some '/'
  | 'b' => some '\x08'
  | 't' => some '\t'
  | 'n' => some '\n'
  | 'f' => some '\x0c'
  | 'r' => some '\r'
  | _ => none

/-- A finished escape of sixteen bits: a character, the wait for the second half of a pair, or
nothing for a half that stands alone. -/
def finishUnit?
    (characters : List Char)
    (high : Option Nat)
    (value : Nat) : Option State :=
  match high with
  | some upper =>
      if 0xDC00 ≤ value ∧ value ≤ 0xDFFF then
        let code := 0x10000 + (upper - 0xD800) * 0x400 + (value - 0xDC00)
        some (.text (Char.ofNat code :: characters) .plain)
      else none
  | none =>
      if 0xD800 ≤ value ∧ value ≤ 0xDBFF then some (.text characters (.pairStart value))
      else if 0xDC00 ≤ value ∧ value ≤ 0xDFFF then none
      else some (.text (Char.ofNat value :: characters) .plain)

/-- One character inside a text. -/
def textStep?
    (characters : List Char)
    (mode : TextMode)
    (character : Char) : Option (State × List Token) :=
  match mode with
  | .plain =>
      if character = '"' then
        some (.between, [.scalar (.string (String.ofList characters.reverse))])
      else if character = '\\' then some (.text characters .escape, [])
      else if character.toNat < 0x20 then none
      else some (.text (character :: characters) .plain, [])
  | .escape =>
      if character = 'u' then some (.text characters (.unit none 0 3), [])
      else
        (escaped? character).map fun meant => (.text (meant :: characters) .plain, [])
  | .unit high value more =>
      match Text.hexValue? character, more with
      | some digit, 0 =>
          (finishUnit? characters high (value * 16 + digit.val)).map fun state => (state, [])
      | some digit, more + 1 =>
          some (.text characters (.unit high (value * 16 + digit.val) more), [])
      | none, _ => none
  | .pairStart high =>
      if character = '\\' then some (.text characters (.pairMark high), []) else none
  | .pairMark high =>
      if character = 'u' then some (.text characters (.unit (some high) 0 3), []) else none

/-- The token of a bracket or separator. -/
def mark? (character : Char) : Option Token :=
  if character = '[' then some .openArray
  else if character = ']' then some .closeArray
  else if character = '\x7b' then some .openObject
  else if character = '\x7d' then some .closeObject
  else if character = ',' then some .comma
  else if character = ':' then some .colon
  else none

/-- One character between tokens. -/
def betweenStep? (character : Char) : Option (State × List Token) :=
  if isSpace character then some (.between, [])
  else if character = '"' then some (.text [] .plain, [])
  else
    match mark? character with
    | some token => some (.between, [token])
    | none =>
        match Numeral.start? character with
        | some numeral => some (.numeral numeral, [])
        | none => if character.isAlpha then some (.word [character], []) else none

/-- One character after a scalar that it does not continue. -/
def afterScalar?
    (value : Option Scalar)
    (character : Char) : Option (State × List Token) := do
  let scalar ← value
  let (state, tokens) ← betweenStep? character
  return (state, .scalar scalar :: tokens)

/-- One character: where the machine stands after it and the tokens it finishes. -/
def step?
    (state : State)
    (character : Char) : Option (State × List Token) :=
  match state with
  | .between => betweenStep? character
  | .text characters mode => textStep? characters mode character
  | .word letters =>
      if character.isAlpha then some (.word (character :: letters), [])
      else afterScalar? (word? letters) character
  | .numeral numeral =>
      match numeral.push? character with
      | some next => some (.numeral next, [])
      | none =>
          if numeral.part = .sign ∧ character = 'I' then some (.word ['I', '-'], [])
          else afterScalar? numeral.value? character

/-- The tokens that the end of the text finishes. -/
def finish? (state : State) : Option (List Token) :=
  match state with
  | .between => some []
  | .word letters => (word? letters).map fun scalar => [.scalar scalar]
  | .numeral numeral => numeral.value?.map fun scalar => [.scalar scalar]
  | .text _ _ => none

/-- The tokens of a text, read on from a state. -/
def scanFrom? : State → List Char → Option (List Token)
  | state, [] => finish? state
  | state, character :: rest =>
      match step? state character with
      | none => none
      | some (next, tokens) => (scanFrom? next rest).map (tokens ++ ·)

/-- The tokens of a text. -/
def scan? (characters : List Char) : Option (List Token) :=
  scanFrom? .between characters

/-- A character inside a written text: quotes, backslashes and control characters are escaped. -/
def writeCharacter (character : Char) : List Char :=
  if character = '"' then ['\\', '"']
  else if character = '\\' then ['\\', '\\']
  else if character = '\x08' then ['\\', 'b']
  else if character = '\t' then ['\\', 't']
  else if character = '\n' then ['\\', 'n']
  else if character = '\x0c' then ['\\', 'f']
  else if character = '\r' then ['\\', 'r']
  else if character.toNat < 0x20 then
    '\\' :: 'u' :: (Text.hexDigits 4 character.toNat).map Text.hexDigit
  else [character]

/-- The written form of a scalar. -/
def writeScalar (value : Scalar) : List Char :=
  match value with
  | .null => ['n', 'u', 'l', 'l']
  | .bool true => ['t', 'r', 'u', 'e']
  | .bool false => ['f', 'a', 'l', 's', 'e']
  | .integer number => Number.integerText number
  | .real number => number.text.toList
  | .string text => '"' :: (text.toList.flatMap writeCharacter ++ ['"'])

/-- The written form of a token. -/
def write (token : Token) : List Char :=
  match token with
  | .openArray => ['[']
  | .closeArray => [']']
  | .openObject => ['\x7b']
  | .closeObject => ['\x7d']
  | .comma => [',']
  | .colon => [':']
  | .scalar value => writeScalar value

end Token

end Json
end Fulfilment
