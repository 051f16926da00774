/-!
# UTF-8 bytes and text

Writing a text as bytes, and reading bytes one at a time with a small machine that emits one
piece per character and one malformed piece per maximal part that starts no character.  Strict
reading refuses malformed pieces; lossy reading puts U+FFFD in their place.
-/

namespace Fulfilment

/-- A sequence of bytes. -/
abbrev Bytes := List UInt8

namespace Text

/-- The UTF-8 bytes of a list of characters. -/
def encodeChars (characters : List Char) : Bytes :=
  characters.flatMap String.utf8EncodeChar

/-- The UTF-8 bytes of a text. -/
def encode (text : String) : Bytes :=
  encodeChars text.toList

/-- A character begun by a lead byte: the bits read so far, the continuation bytes still owed
(one more than `more`), and the range of the next one. -/
structure Partial where
  bits : Nat
  more : Nat
  low : Nat
  high : Nat
deriving DecidableEq, Repr

/-- What stands between two bytes: nothing, or a begun character. -/
abbrev Pending := Option Partial

/-- A piece of the input: a character, or `none` for a malformed part. -/
abbrev Piece := Option Char

/-- The first byte of a character. -/
def begin (byte : UInt8) : Pending × List Piece :=
  let value := byte.toNat
  if value < 0x80 then (none, [some (Char.ofNat value)])
  else if value < 0xC2 then (none, [none])
  else if value < 0xE0 then (some ⟨value - 0xC0, 0, 0x80, 0xBF⟩, [])
  else if value < 0xF0 then
    (some ⟨value - 0xE0, 1, if value = 0xE0 then 0xA0 else 0x80,
      if value = 0xED then 0x9F else 0xBF⟩, [])
  else if value < 0xF5 then
    (some ⟨value - 0xF0, 2, if value = 0xF0 then 0x90 else 0x80,
      if value = 0xF4 then 0x8F else 0xBF⟩, [])
  else (none, [none])

/-- One byte: what stands after it and the pieces it finishes.  A byte that cannot continue the
begun character ends it as malformed and is read as a first byte. -/
def step (pending : Pending) (byte : UInt8) : Pending × List Piece :=
  match pending with
  | none => begin byte
  | some part =>
      if part.low ≤ byte.toNat ∧ byte.toNat ≤ part.high then
        let bits := part.bits * 64 + (byte.toNat - 0x80)
        match part.more with
        | 0 => (none, [some (Char.ofNat bits)])
        | more + 1 => (some ⟨bits, more, 0x80, 0xBF⟩, [])
      else
        let next := begin byte
        (next.1, none :: next.2)

/-- The pieces of a byte sequence. -/
def pieces : Pending → Bytes → List Piece
  | none, [] => []
  | some _, [] => [none]
  | pending, byte :: rest =>
      (step pending byte).2 ++ pieces (step pending byte).1 rest

/-- The characters of a byte sequence, if it is valid UTF-8. -/
def decodeChars? (bytes : Bytes) : Option (List Char) :=
  (pieces none bytes).mapM id

/-- The text of a byte sequence, if it is valid UTF-8. -/
def decode? (bytes : Bytes) : Option String :=
  (decodeChars? bytes).map String.ofList

/-- The text of a byte sequence with U+FFFD for each malformed part. -/
def decodeLossy (bytes : Bytes) : String :=
  String.ofList ((pieces none bytes).map fun piece => piece.getD '\uFFFD')

end Text
end Fulfilment
