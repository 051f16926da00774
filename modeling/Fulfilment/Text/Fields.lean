/-!
# Fields

The fields of a text, between any two of which stands a separator.
-/

namespace Fulfilment
namespace Text

/-- The fields of a text that the characters of a class separate. -/
def fields (separates : Char → Bool) : List Char → List (List Char)
  | [] => [[]]
  | character :: rest =>
      if separates character then [] :: fields separates rest
      else
        match fields separates rest with
        | first :: others => (character :: first) :: others
        | [] => [[character]]

/-- There is one field more than there are separators. -/
theorem length_fields
    (separates : Char → Bool)
    (characters : List Char) :
    (fields separates characters).length = characters.countP separates + 1 := by
  induction characters with
  | nil => rfl
  | cons character rest ih =>
      unfold fields
      by_cases separator : separates character = true
      · simp [separator, ih]
      · cases split : fields separates rest with
        | nil => simp [split] at ih
        | cons first others => simp_all

end Text
end Fulfilment
