/-!
# Blank characters

The characters that trimming removes from the ends of a text.  The white-space class is that of
the Unicode property `White_Space`; the blank class adds the four information separators.
-/

namespace Fulfilment
namespace Text

/-- Inclusive code point ranges of the Unicode property `White_Space`. -/
def whiteSpaceRanges : List (Nat × Nat) :=
  [(0x09, 0x0D), (0x20, 0x20), (0x85, 0x85), (0xA0, 0xA0), (0x1680, 0x1680), (0x2000, 0x200A),
    (0x2028, 0x2029), (0x202F, 0x202F), (0x205F, 0x205F), (0x3000, 0x3000)]

/-- A character with the Unicode property `White_Space`. -/
def isWhiteSpace (character : Char) : Bool :=
  whiteSpaceRanges.any fun range =>
    range.1 ≤ character.toNat && character.toNat ≤ range.2

/-- A white-space character or one of the information separators U+001C to U+001F. -/
def isBlank (character : Char) : Bool :=
  isWhiteSpace character || (0x1C ≤ character.toNat && character.toNat ≤ 0x1F)

/-- Drop the characters of a class from both ends. -/
def trimBy
    (drops : Char → Bool)
    (characters : List Char) : List Char :=
  ((characters.dropWhile drops).reverse.dropWhile drops).reverse

/-- A text in which trimming blanks leaves nothing. -/
def isBlankText (text : String) : Bool :=
  text.toList.all isBlank

/-- The ASCII white space that every text format has is blank. -/
theorem isBlank_of_isWhitespace
    {character : Char}
    (white : character.isWhitespace = true) :
    isBlank character = true := by
  simp only [Char.isWhitespace, Bool.or_eq_true, decide_eq_true_eq] at white
  rcases white with ((rfl | rfl) | rfl) | rfl <;> decide

/-- Trimming removes every character of a text that holds only dropped ones. -/
theorem trimBy_eq_nil_of_all
    {drops : Char → Bool}
    {characters : List Char}
    (all : characters.all drops = true) :
    trimBy drops characters = [] := by
  have dropped : characters.dropWhile drops = [] := by
    induction characters with
    | nil => rfl
    | cons head tail ih => simp_all [List.dropWhile]
  simp [trimBy, dropped]

end Text
end Fulfilment
