import Fulfilment.Uuid

/-!
# Reading written identifiers

The written form of an identifier spells that identifier and no other.
-/

namespace Fulfilment
namespace Uuid

/-- A list cut into pieces has a separator between every two of them. -/
theorem length_hyphenate :
    ∀ (lengths : List Nat) (characters : List Char),
      characters.length = lengths.foldr (· + ·) 0 →
      (hyphenate lengths characters).length = lengths.foldr (· + ·) 0 + (lengths.length - 1)
  | [], characters, sized => by simpa [hyphenate] using sized
  | [length], characters, sized => by simp_all [hyphenate]
  | length :: next :: lengths, characters, sized => by
      have rest := length_hyphenate (next :: lengths) (characters.drop length)
        (by simp at sized ⊢; omega)
      simp only [hyphenate, List.length_append, List.length_take, List.length_cons, rest,
        List.foldr_cons] at sized ⊢
      omega

/-- Taking the separators out of a list that was cut into pieces gives the list. -/
theorem unhyphenate?_hyphenate :
    ∀ (lengths : List Nat) (characters : List Char),
      characters.length = lengths.foldr (· + ·) 0 →
      unhyphenate? lengths (hyphenate lengths characters) = some characters
  | [], characters, sized => by simp_all [hyphenate, unhyphenate?]
  | [length], characters, sized => by
      have all : characters.take length = characters :=
        List.take_of_length_le (by simp at sized; omega)
      simp_all [hyphenate, unhyphenate?]
  | length :: next :: lengths, characters, sized => by
      have rest := unhyphenate?_hyphenate (next :: lengths) (characters.drop length)
        (by simp at sized ⊢; omega)
      have within : length ≤ characters.length := by
        simp only [List.foldr_cons] at sized
        omega
      have piece : (characters.take length).length = length := by simp [within]
      have behind (following : List Char) :
          (characters.take length ++ following).drop length = following := by
        rw [List.drop_append, piece]
        simp
      have front (following : List Char) :
          (characters.take length ++ following).take length = characters.take length := by
        rw [List.take_append, piece, List.take_of_length_le (by omega)]
        simp
      simp [hyphenate, unhyphenate?, behind, front, rest]

/-- Digits are read as they were written. -/
theorem mapM_hexValue?_hexDigit (digits : List (Fin 16)) :
    (digits.map Text.hexDigit).mapM Text.hexValue? = some digits := by
  induction digits with
  | nil => rfl
  | cons digit rest ih => simp [List.mapM_cons, ih]

/-- An identifier has as many digits as its groups. -/
theorem length_map_hexDigit (uuid : Uuid) :
    (uuid.digits.map Text.hexDigit).length = groups.foldr (· + ·) 0 := by
  simp [uuid.length_digits, groups]

/-- The written form has thirty-six characters. -/
@[simp]
theorem length_characters (uuid : Uuid) : uuid.characters.length = 36 := by
  rw [characters, length_hyphenate groups _ uuid.length_map_hexDigit]
  rfl

/-- The written form of an identifier spells it. -/
@[simp]
theorem ofText?_text (uuid : Uuid) :
    ofText? uuid.text = some uuid := by
  have spelled : ofDigits? (uuid.digits.map Text.hexDigit) = some uuid := by
    rw [ofDigits?, mapM_hexValue?_hexDigit]
    simp [uuid.length_digits]
  have grouped : ofGroups? uuid.characters = some uuid := by
    rw [ofGroups?, characters, unhyphenate?_hyphenate groups _ uuid.length_map_hexDigit]
    exact spelled
  simp [ofText?, text, ofCharacters?, grouped]

/-- A list cut into pieces has no characters but its own and the separator. -/
theorem mem_hyphenate
    {character : Char} :
    ∀ {lengths : List Nat} {characters : List Char},
      character ∈ hyphenate lengths characters → character ∈ characters ∨ character = '-'
  | [], _, member => .inl member
  | [_], _, member => .inl (List.mem_of_mem_take member)
  | length :: next :: lengths, characters, member => by
      simp only [hyphenate, List.mem_append, List.mem_cons] at member
      rcases member with front | hyphen | behind
      · exact .inl (List.mem_of_mem_take front)
      · exact .inr hyphen
      · rcases mem_hyphenate behind with inside | hyphen
        · exact .inl (List.mem_of_mem_drop inside)
        · exact .inr hyphen

end Uuid
end Fulfilment
