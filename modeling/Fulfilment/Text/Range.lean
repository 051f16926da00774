/-!
# Ranges of characters

Classes of characters are given by ranges of code points, both ends included.
-/

namespace Fulfilment
namespace Text

/-- Inclusive ranges of code points. -/
abbrev Ranges := List (Nat × Nat)

/-- Whether a character stands in one of some ranges. -/
def Ranges.contain
    (ranges : Ranges)
    (character : Char) : Bool :=
  ranges.any fun range => range.1 ≤ character.toNat && character.toNat ≤ range.2

/-- No character stands in no range. -/
@[simp]
theorem contain_nil (character : Char) :
    Ranges.contain [] character = false := rfl

/-- A character stands in a range or in one of the others. -/
@[simp]
theorem contain_cons
    (first last : Nat)
    (others : Ranges)
    (character : Char) :
    Ranges.contain ((first, last) :: others) character
      = ((decide (first ≤ character.toNat) && decide (character.toNat ≤ last))
        || Ranges.contain others character) := rfl

end Text
end Fulfilment
