import Fulfilment.Text.Utf8

/-!
# MD5

The 128-bit message digest MD5: the message is padded to blocks of sixty-four bytes, and each
block mixes sixteen words into a state of four words in sixty-four rounds.
-/

namespace Fulfilment
namespace Md5

/-- The state of four words. -/
structure State where
  a : UInt32
  b : UInt32
  c : UInt32
  d : UInt32
deriving DecidableEq, Repr

/-- The state before the first block. -/
def State.start : State :=
  ⟨0x67452301, 0xefcdab89, 0x98badcfe, 0x10325476⟩

/-- The constants of the sixty-four rounds. -/
def roundConstants : List UInt32 :=
  [0xd76aa478, 0xe8c7b756, 0x242070db, 0xc1bdceee, 0xf57c0faf, 0x4787c62a,
    0xa8304613, 0xfd469501, 0x698098d8, 0x8b44f7af, 0xffff5bb1, 0x895cd7be,
    0x6b901122, 0xfd987193, 0xa679438e, 0x49b40821, 0xf61e2562, 0xc040b340,
    0x265e5a51, 0xe9b6c7aa, 0xd62f105d, 0x02441453, 0xd8a1e681, 0xe7d3fbc8,
    0x21e1cde6, 0xc33707d6, 0xf4d50d87, 0x455a14ed, 0xa9e3e905, 0xfcefa3f8,
    0x676f02d9, 0x8d2a4c8a, 0xfffa3942, 0x8771f681, 0x6d9d6122, 0xfde5380c,
    0xa4beea44, 0x4bdecfa9, 0xf6bb4b60, 0xbebfbc70, 0x289b7ec6, 0xeaa127fa,
    0xd4ef3085, 0x04881d05, 0xd9d4d039, 0xe6db99e5, 0x1fa27cf8, 0xc4ac5665,
    0xf4292244, 0x432aff97, 0xab9423a7, 0xfc93a039, 0x655b59c3, 0x8f0ccc92,
    0xffeff47d, 0x85845dd1, 0x6fa87e4f, 0xfe2ce6e0, 0xa3014314, 0x4e0811a1,
    0xf7537e82, 0xbd3af235, 0x2ad7d2bb, 0xeb86d391]

/-- The rotations of the four groups of sixteen rounds, which repeat every four rounds. -/
def rotations : List (List UInt32) :=
  [[7, 12, 17, 22], [5, 9, 14, 20], [4, 11, 16, 23], [6, 10, 15, 21]]

/-- Rotate a word to the left. -/
def rotateLeft (word amount : UInt32) : UInt32 :=
  (word <<< amount) ||| (word >>> (32 - amount))

/-- The mixing function of a group of rounds and the index of the word that a round takes. -/
def mix
    (round : Nat)
    (state : State) : UInt32 × Nat :=
  match round / 16 with
  | 0 => ((state.b &&& state.c) ||| (~~~state.b &&& state.d), round)
  | 1 => ((state.d &&& state.b) ||| (~~~state.d &&& state.c), (5 * round + 1) % 16)
  | 2 => (state.b ^^^ state.c ^^^ state.d, (3 * round + 5) % 16)
  | _ => (state.c ^^^ (state.b ||| ~~~state.d), (7 * round) % 16)

/-- One round over the words of a block. -/
def round
    (words : List UInt32)
    (state : State)
    (indexed : UInt32 × Nat) : State :=
  let (constant, index) := indexed
  let (mixed, position) := mix index state
  let amount := ((rotations[index / 16]?.getD [])[index % 4]?).getD 0
  let total := state.a + mixed + constant + (words[position]?.getD 0)
  ⟨state.d, state.b + rotateLeft total amount, state.b, state.c⟩

/-- Mix the words of a block into a state. -/
def block
    (state : State)
    (words : List UInt32) : State :=
  let mixed := roundConstants.zipIdx.foldl (round words) state
  ⟨state.a + mixed.a, state.b + mixed.b, state.c + mixed.c, state.d + mixed.d⟩

/-- The bytes of a number in a fixed width, least significant first. -/
def littleEndian : Nat → Nat → Bytes
  | 0, _ => []
  | width + 1, value => UInt8.ofNat value :: littleEndian width (value / 256)

/-- The message followed by a one bit, zero bits and its length in bits. -/
def pad (message : Bytes) : Bytes :=
  let zeros := (119 - message.length % 64) % 64
  message ++ 0x80 :: (List.replicate zeros 0 ++ littleEndian 8 (message.length * 8))

/-- The words of a byte sequence, least significant byte first. -/
def words : Bytes → List UInt32
  | a :: b :: c :: d :: rest =>
      (a.toUInt32 ||| b.toUInt32 <<< 8 ||| c.toUInt32 <<< 16 ||| d.toUInt32 <<< 24) :: words rest
  | _ => []

/-- Mix a number of blocks of sixteen words into a state. -/
def blocks : Nat → State → List UInt32 → State
  | 0, state, _ => state
  | count + 1, state, words => blocks count (block state (words.take 16)) (words.drop 16)

/-- The sixteen bytes of the digest. -/
def digest (message : Bytes) : Bytes :=
  let padded := words (pad message)
  let state := blocks (padded.length / 16) .start padded
  [state.a, state.b, state.c, state.d].flatMap fun word => littleEndian 4 word.toNat

/-- The digest as a number, most significant byte first. -/
def number (message : Bytes) : Nat :=
  (digest message).foldl (fun total byte => total * 256 + byte.toNat) 0

end Md5
end Fulfilment
