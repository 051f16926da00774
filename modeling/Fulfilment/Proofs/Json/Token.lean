import Fulfilment.Json.Token
import Fulfilment.Proofs.Number.Digit

/-!
# Reading written tokens

The machine that scans a text gives back the tokens that were written.  A bracket, a separator or
a text ends where it ends; a whole number ends only at what follows it, so a bracket or separator
has to stand there.
-/

namespace Fulfilment
namespace Json
namespace Token

/-- A character that finishes no token. -/
theorem scanFrom?_silent
    {state next : State}
    {character : Char}
    (stepped : step? state character = some (next, []))
    (rest : List Char) :
    scanFrom? state (character :: rest) = scanFrom? next rest := by
  simp [scanFrom?, stepped]

/-- A character that finishes tokens. -/
theorem scanFrom?_emit
    {state next : State}
    {character : Char}
    {finished : List Token}
    (stepped : step? state character = some (next, finished))
    (rest : List Char) :
    scanFrom? state (character :: rest) = (scanFrom? next rest).map (finished ++ ·) := by
  simp [scanFrom?, stepped]

/-! ## Brackets and separators -/

/-- The bracket that opens an object. -/
theorem mark?_openObject : mark? '\x7b' = some .openObject := rfl

/-- The bracket that closes an object. -/
theorem mark?_closeObject : mark? '\x7d' = some .closeObject := rfl

/-- The separator of members. -/
theorem mark?_comma : mark? ',' = some .comma := rfl

/-- The separator of name and value. -/
theorem mark?_colon : mark? ':' = some .colon := rfl

/-- A bracket or separator is a token of its own. -/
theorem step?_between_mark
    {character : Char}
    {token : Token}
    (marked : mark? character = some token) :
    step? .between character = some (.between, [token]) := by
  unfold mark? at marked
  repeat' split at marked
  all_goals
    cases marked
    try subst character
    try rfl

/-- A bracket or separator is scanned by itself. -/
theorem scanFrom?_mark
    {character : Char}
    {token : Token}
    (marked : mark? character = some token)
    (rest : List Char) :
    scanFrom? .between (character :: rest) = (scanFrom? .between rest).map (token :: ·) :=
  scanFrom?_emit (step?_between_mark marked) rest

/-! ## Texts -/

/-- A backslash begins an escape. -/
theorem step?_backslash (characters : List Char) :
    step? (.text characters .plain) '\\' = some (.text characters .escape, []) := rfl

/-- The letter behind a backslash that begins an escape of sixteen bits. -/
theorem step?_unitLetter (characters : List Char) :
    step? (.text characters .escape) 'u' = some (.text characters (.unit none 0 3), []) := rfl

/-- A digit of an escape that is not the last. -/
theorem scanFrom?_unitDigit
    (characters : List Char)
    (value more : Nat)
    (digit : Fin 16)
    (rest : List Char) :
    scanFrom? (.text characters (.unit none value (more + 1))) (Text.hexDigit digit :: rest) =
      scanFrom? (.text characters (.unit none (value * 16 + digit.val) more)) rest := by
  apply scanFrom?_silent
  simp [step?, textStep?]

/-- The last digit of an escape that stands for a character. -/
theorem scanFrom?_unitEnd
    {value : Nat}
    {digit : Fin 16}
    (small : value * 16 + digit.val < 0xD800)
    (characters rest : List Char) :
    scanFrom? (.text characters (.unit none value 0)) (Text.hexDigit digit :: rest) =
      scanFrom? (.text (Char.ofNat (value * 16 + digit.val) :: characters) .plain) rest := by
  have notHigh : ¬(0xD800 ≤ value * 16 + digit.val ∧ value * 16 + digit.val ≤ 0xDBFF) := by omega
  have notLow : ¬(0xDC00 ≤ value * 16 + digit.val ∧ value * 16 + digit.val ≤ 0xDFFF) := by omega
  apply scanFrom?_silent
  simp [step?, textStep?, finishUnit?, notHigh, notLow]

/-- An escape of sixteen bits is read as its character. -/
theorem scanFrom?_escapedUnit
    {character : Char}
    (small : character.toNat < 0xD800)
    (characters rest : List Char) :
    scanFrom? (.text characters .plain)
        ('\\' :: 'u' :: ((Text.hexDigits 4 character.toNat).map Text.hexDigit ++ rest)) =
      scanFrom? (.text (character :: characters) .plain) rest := by
  rw [scanFrom?_silent (step?_backslash characters),
    scanFrom?_silent (step?_unitLetter characters)]
  simp only [Text.hexDigits, List.nil_append, List.cons_append, List.map_cons, List.map_nil]
  have spelled :
      (((0 * 16 + (Fin.ofNat 16 (character.toNat / 16 / 16 / 16)).val) * 16
          + (Fin.ofNat 16 (character.toNat / 16 / 16)).val) * 16
          + (Fin.ofNat 16 (character.toNat / 16)).val) * 16
          + (Fin.ofNat 16 character.toNat).val = character.toNat := by
    simp only [Fin.ofNat]
    omega
  rw [scanFrom?_unitDigit, scanFrom?_unitDigit, scanFrom?_unitDigit,
    scanFrom?_unitEnd (by rw [spelled]; exact small), spelled, Char.ofNat_toNat]

/-- A written character is read as itself. -/
theorem scanFrom?_writeCharacter
    (characters : List Char)
    (character : Char)
    (rest : List Char) :
    scanFrom? (.text characters .plain) (writeCharacter character ++ rest) =
      scanFrom? (.text (character :: characters) .plain) rest := by
  unfold writeCharacter
  have escaped {letter : Char} (meant : escaped? letter = some character) (other : letter ≠ 'u') :
      scanFrom? (.text characters .plain) ('\\' :: letter :: rest) =
        scanFrom? (.text (character :: characters) .plain) rest := by
    rw [scanFrom?_silent (step?_backslash characters)]
    apply scanFrom?_silent
    simp [step?, textStep?, other, meant]
  split
  · next same => subst same; exact escaped rfl (by decide)
  split
  · next same => subst same; exact escaped rfl (by decide)
  split
  · next same => subst same; exact escaped rfl (by decide)
  split
  · next same => subst same; exact escaped rfl (by decide)
  split
  · next same => subst same; exact escaped rfl (by decide)
  split
  · next same => subst same; exact escaped rfl (by decide)
  split
  · next same => subst same; exact escaped rfl (by decide)
  split
  · next control => exact scanFrom?_escapedUnit (by omega) characters rest
  · next notQuote notBackslash _ _ _ _ _ notControl =>
    apply scanFrom?_silent
    simp [step?, textStep?, notQuote, notBackslash, notControl]

/-- Written characters are read one after another. -/
theorem scanFrom?_writeCharacters
    (read characters rest : List Char) :
    scanFrom? (.text read .plain) (characters.flatMap writeCharacter ++ rest) =
      scanFrom? (.text (characters.reverse ++ read) .plain) rest := by
  induction characters generalizing read with
  | nil => rfl
  | cons character others ih =>
      rw [List.flatMap_cons, List.append_assoc, scanFrom?_writeCharacter, ih]
      simp

/-- A written text is scanned by itself. -/
theorem scanFrom?_string
    (text : String)
    (rest : List Char) :
    scanFrom? .between (writeScalar (.string text) ++ rest) =
      (scanFrom? .between rest).map (.scalar (.string text) :: ·) := by
  have opened : step? .between '"' = some (.text [] .plain, []) := rfl
  have closed (characters : List Char) :
      step? (.text characters .plain) '"' =
        some (.between, [.scalar (.string (String.ofList characters.reverse))]) := rfl
  simp only [writeScalar, List.cons_append, List.append_assoc, List.nil_append]
  rw [scanFrom?_silent opened, scanFrom?_writeCharacters, scanFrom?_emit (closed _)]
  simp

end Token
end Json
end Fulfilment
