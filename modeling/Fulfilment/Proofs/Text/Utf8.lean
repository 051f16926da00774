import Fulfilment.Text.Utf8

/-!
# Reading written UTF-8

The machine that reads bytes gives back every text that was written, character by character.  A
lead byte begins a character, each continuation byte adds six bits to it, and the last one
finishes it.  Conversely, bytes that are read without a malformed part are those of the text that
is read: the ranges of the bytes leave neither an overlong form nor a surrogate.
-/

namespace Fulfilment
namespace Text

/-- A byte is read before those that follow it. -/
theorem pieces_cons
    (pending : Pending)
    (byte : UInt8)
    (rest : Bytes) :
    pieces pending (byte :: rest) =
      (step pending byte).2 ++ pieces (step pending byte).1 rest := by
  cases pending <;> rfl

/-- A continuation byte that is not the last adds its bits. -/
theorem pieces_continue
    {bits more low high : Nat}
    {byte : UInt8}
    (inRange : low ≤ byte.toNat ∧ byte.toNat ≤ high)
    (rest : Bytes) :
    pieces (some ⟨bits, more + 1, low, high⟩) (byte :: rest) =
      pieces (some ⟨bits * 64 + (byte.toNat - 0x80), more, 0x80, 0xBF⟩) rest := by
  rw [pieces_cons]
  simp [step, inRange]

/-- The last continuation byte finishes the character. -/
theorem pieces_finish
    {bits low high : Nat}
    {byte : UInt8}
    (inRange : low ≤ byte.toNat ∧ byte.toNat ≤ high)
    (rest : Bytes) :
    pieces (some ⟨bits, 0, low, high⟩) (byte :: rest) =
      some (Char.ofNat (bits * 64 + (byte.toNat - 0x80))) :: pieces none rest := by
  rw [pieces_cons]
  simp [step, inRange]

/-- A byte of its own is a character. -/
theorem pieces_single
    {byte : UInt8}
    (small : byte.toNat < 0x80)
    (rest : Bytes) :
    pieces none (byte :: rest) = some (Char.ofNat byte.toNat) :: pieces none rest := by
  rw [pieces_cons]
  simp [step, begin, small]

/-- The lead byte of two. -/
theorem pieces_leadTwo
    {byte : UInt8}
    (inRange : 0xC2 ≤ byte.toNat ∧ byte.toNat < 0xE0)
    (rest : Bytes) :
    pieces none (byte :: rest) = pieces (some ⟨byte.toNat - 0xC0, 0, 0x80, 0xBF⟩) rest := by
  have notSingle : ¬byte.toNat < 0x80 := by omega
  have notTail : ¬byte.toNat < 0xC2 := by omega
  rw [pieces_cons]
  simp [step, begin, notSingle, notTail, inRange.2]

/-- The lead byte of three. -/
theorem pieces_leadThree
    {byte : UInt8}
    (inRange : 0xE0 ≤ byte.toNat ∧ byte.toNat < 0xF0)
    (rest : Bytes) :
    pieces none (byte :: rest) =
      pieces (some ⟨byte.toNat - 0xE0, 1, if byte.toNat = 0xE0 then 0xA0 else 0x80,
        if byte.toNat = 0xED then 0x9F else 0xBF⟩) rest := by
  have notSingle : ¬byte.toNat < 0x80 := by omega
  have notTail : ¬byte.toNat < 0xC2 := by omega
  have notTwo : ¬byte.toNat < 0xE0 := by omega
  rw [pieces_cons]
  simp [step, begin, notSingle, notTail, notTwo, inRange.2]

/-- The lead byte of four. -/
theorem pieces_leadFour
    {byte : UInt8}
    (inRange : 0xF0 ≤ byte.toNat ∧ byte.toNat < 0xF5)
    (rest : Bytes) :
    pieces none (byte :: rest) =
      pieces (some ⟨byte.toNat - 0xF0, 2, if byte.toNat = 0xF0 then 0x90 else 0x80,
        if byte.toNat = 0xF4 then 0x8F else 0xBF⟩) rest := by
  have notSingle : ¬byte.toNat < 0x80 := by omega
  have notTail : ¬byte.toNat < 0xC2 := by omega
  have notTwo : ¬byte.toNat < 0xE0 := by omega
  have notThree : ¬byte.toNat < 0xF0 := by omega
  rw [pieces_cons]
  simp [step, begin, notSingle, notTail, notTwo, notThree, inRange.2]

/-- The code points of characters: no surrogate is one. -/
theorem toNat_valid (character : Char) :
    character.toNat < 0xD800 ∨ 0xDFFF < character.toNat ∧ character.toNat < 0x110000 :=
  character.valid

/-- The bytes of a character are read as that character. -/
theorem pieces_utf8EncodeChar
    (character : Char)
    (rest : Bytes) :
    pieces none (String.utf8EncodeChar character ++ rest) =
      some character :: pieces none rest := by
  have valid := toNat_valid character
  have finished {code : Nat} (equal : code = character.toNat) : Char.ofNat code = character := by
    rw [equal, Char.ofNat_toNat]
  have byteValue (code : Nat) (small : code < 256) : (UInt8.ofNat code).toNat = code := by
    rw [UInt8.toNat_ofNat']
    omega
  have value : character.val.toNat = character.toNat := rfl
  unfold String.utf8EncodeChar
  simp only [value]
  generalize character.toNat = code at valid finished ⊢
  split
  · next small =>
    rw [List.singleton_append, pieces_single (by rw [byteValue _ (by omega)]; omega),
      finished (byteValue _ (by omega))]
  split
  · next single two =>
    have lead := byteValue (code / 64 % 32 + 192) (by omega)
    have last := byteValue (code % 64 + 128) (by omega)
    simp only [List.cons_append, List.nil_append]
    rw [pieces_leadTwo (by rw [lead]; omega), pieces_finish (by rw [last]; omega), lead, last,
      finished (by omega)]
  split
  · next single two three =>
    have lead := byteValue (code / 4096 % 16 + 224) (by omega)
    have middle := byteValue (code / 64 % 64 + 128) (by omega)
    have last := byteValue (code % 64 + 128) (by omega)
    simp only [List.cons_append, List.nil_append]
    rw [pieces_leadThree (by rw [lead]; omega),
      pieces_continue (by rw [lead, middle]; split <;> split <;> omega),
      pieces_finish (by rw [last]; omega), lead, middle, last, finished (by omega)]
  · next single two three =>
    have lead := byteValue (code / 262144 % 8 + 240) (by omega)
    have second := byteValue (code / 4096 % 64 + 128) (by omega)
    have third := byteValue (code / 64 % 64 + 128) (by omega)
    have last := byteValue (code % 64 + 128) (by omega)
    simp only [List.cons_append, List.nil_append]
    rw [pieces_leadFour (by rw [lead]; omega),
      pieces_continue (by rw [lead, second]; split <;> split <;> omega),
      pieces_continue (by rw [third]; omega), pieces_finish (by rw [last]; omega),
      lead, second, third, last, finished (by omega)]

/-- The bytes of a text are read as its characters. -/
@[simp]
theorem pieces_encodeChars (characters : List Char) :
    pieces none (encodeChars characters) = characters.map some := by
  induction characters with
  | nil => rfl
  | cons character rest ih =>
      rw [encodeChars, List.flatMap_cons, pieces_utf8EncodeChar]
      exact congrArg (some character :: ·) ih

/-- What was written is valid and reads as it was. -/
@[simp]
theorem decodeChars?_encodeChars (characters : List Char) :
    decodeChars? (encodeChars characters) = some characters := by
  rw [decodeChars?, pieces_encodeChars]
  induction characters with
  | nil => rfl
  | cons character rest ih => simp [List.mapM_cons, ih]

/-- What was written is read as it was, also where malformed parts are replaced. -/
@[simp]
theorem decodeLossy_encodeChars (characters : List Char) :
    decodeLossy (encodeChars characters) = String.ofList characters := by
  rw [decodeLossy, pieces_encodeChars, List.map_map]
  simp only [Function.comp_def, Option.getD_some, List.map_id']

/-- What was written is read as it was. -/
@[simp]
theorem decodeLossy_encode (text : String) : decodeLossy (encode text) = text := by
  rw [encode, decodeLossy_encodeChars, String.ofList_toList]

/-! ## Reading without a malformed part -/

/-- Bytes are valid if they are the bytes of a text. -/
def IsValid (bytes : Bytes) : Prop :=
  ∃ text, bytes = encode text

/-- A code point that is no surrogate is that of its character. -/
theorem toNat_val_ofNat
    {code : Nat}
    (valid : code < 0xD800 ∨ 0xDFFF < code ∧ code < 0x110000) :
    (Char.ofNat code).val.toNat = code := by
  have sound : code.isValidChar := valid
  rw [Char.ofNat, dif_pos sound]
  exact UInt32.toNat_ofNatLT ..

/-- The values of the bytes of a code point. -/
def byteValues (code : Nat) : List Nat :=
  if code < 0x80 then [code]
  else if code < 0x800 then [0xC0 + code / 64, 0x80 + code % 64]
  else if code < 0x10000 then [0xE0 + code / 4096, 0x80 + code / 64 % 64, 0x80 + code % 64]
  else [0xF0 + code / 262144, 0x80 + code / 4096 % 64, 0x80 + code / 64 % 64, 0x80 + code % 64]

/-- The bytes of a character are those whose values its code point has. -/
theorem utf8EncodeChar_ofNat
    {code : Nat}
    (bytes : Bytes)
    (valid : code < 0xD800 ∨ 0xDFFF < code ∧ code < 0x110000)
    (values : bytes.map UInt8.toNat = byteValues code) :
    String.utf8EncodeChar (Char.ofNat code) = bytes := by
  have same : (String.utf8EncodeChar (Char.ofNat code)).map UInt8.toNat = byteValues code := by
    unfold String.utf8EncodeChar byteValues
    simp only [toNat_val_ofNat valid, Nat.lt_succ_iff.symm]
    split
    · simp; omega
    split
    · simp; omega
    split
    · simp; omega
    · simp; omega
  exact (List.map_inj_right fun _ _ => UInt8.toNat_inj.mp).mp (same.trans values.symm)

/-- A byte that begins no character is malformed. -/
theorem pieces_malformed
    {byte : UInt8}
    (outside : 0x80 ≤ byte.toNat ∧ byte.toNat < 0xC2 ∨ 0xF5 ≤ byte.toNat)
    (rest : Bytes) :
    pieces none (byte :: rest) = none :: pieces none rest := by
  have notSingle : ¬byte.toNat < 0x80 := by omega
  rw [pieces_cons]
  rcases outside with tail | large
  · simp [step, begin, notSingle, tail.2]
  · have notTail : ¬byte.toNat < 0xC2 := by omega
    have notTwo : ¬byte.toNat < 0xE0 := by omega
    have notThree : ¬byte.toNat < 0xF0 := by omega
    have notFour : ¬byte.toNat < 0xF5 := by omega
    simp [step, begin, notSingle, notTail, notTwo, notThree, notFour]

section Sound

variable
  {bits more low high : Nat}
  {bytes : Bytes}
  {characters : List Char}

/-- A begun character is malformed unless a byte in its range comes next. -/
theorem exists_next_of_pieces
    (sound : pieces (some ⟨bits, more, low, high⟩) bytes = characters.map some) :
    ∃ byte rest, bytes = byte :: rest ∧ low ≤ byte.toNat ∧ byte.toNat ≤ high := by
  cases bytes with
  | nil => cases characters <;> simp [pieces] at sound
  | cons byte rest =>
      by_cases inRange : low ≤ byte.toNat ∧ byte.toNat ≤ high
      · exact ⟨byte, rest, rfl, inRange⟩
      · rw [pieces_cons] at sound
        cases characters <;> simp [step, inRange] at sound

/-- The last byte of a begun character finishes it. -/
theorem exists_last_of_pieces
    (sound : pieces (some ⟨bits, 0, low, high⟩) bytes = characters.map some) :
    ∃ byte rest others, bytes = byte :: rest ∧ (low ≤ byte.toNat ∧ byte.toNat ≤ high)
      ∧ characters = Char.ofNat (bits * 64 + (byte.toNat - 0x80)) :: others
      ∧ pieces none rest = others.map some := by
  obtain ⟨byte, rest, rfl, inRange⟩ := exists_next_of_pieces sound
  rw [pieces_finish inRange] at sound
  cases characters with
  | nil => cases sound
  | cons character others =>
      obtain ⟨same, later⟩ := List.cons.inj sound
      exact ⟨byte, rest, others, rfl, inRange, by rw [Option.some.inj same], later⟩

/-- The first character is read from bytes that are its own, and the others from the rest. -/
def ReadsFirst
    (bytes : Bytes)
    (characters : List Char) : Prop :=
  ∃ character others rest, characters = character :: others
    ∧ bytes = String.utf8EncodeChar character ++ rest
    ∧ pieces none rest = others.map some

/-- A character of one byte. -/
theorem readsFirst_single
    {byte : UInt8}
    (small : byte.toNat < 0x80)
    (sound : pieces none (byte :: bytes) = characters.map some) :
    ReadsFirst (byte :: bytes) characters := by
  rw [pieces_single small] at sound
  cases characters with
  | nil => cases sound
  | cons character others =>
      obtain ⟨same, finished⟩ := List.cons.inj sound
      have encoded : String.utf8EncodeChar (Char.ofNat byte.toNat) = [byte] :=
        utf8EncodeChar_ofNat [byte] (by omega) (by simp [byteValues, small])
      refine ⟨character, others, bytes, rfl, ?_, finished⟩
      rw [← Option.some.inj same, encoded]
      rfl

/-- A character of two bytes. -/
theorem readsFirst_two
    {byte : UInt8}
    (inRange : 0xC2 ≤ byte.toNat ∧ byte.toNat < 0xE0)
    (sound : pieces none (byte :: bytes) = characters.map some) :
    ReadsFirst (byte :: bytes) characters := by
  rw [pieces_leadTwo inRange] at sound
  obtain ⟨last, rest, others, rfl, lastFits, rfl, finished⟩ := exists_last_of_pieces sound
  refine ⟨_, others, rest, rfl, ?_, finished⟩
  rw [utf8EncodeChar_ofNat [byte, last] (by omega)]
  · rfl
  · rw [byteValues, if_neg (by omega), if_pos (by omega)]
    simp
    omega

/-- A character of three bytes. -/
theorem readsFirst_three
    {byte : UInt8}
    (inRange : 0xE0 ≤ byte.toNat ∧ byte.toNat < 0xF0)
    (sound : pieces none (byte :: bytes) = characters.map some) :
    ReadsFirst (byte :: bytes) characters := by
  rw [pieces_leadThree inRange] at sound
  obtain ⟨middle, bytes, rfl, fits⟩ := exists_next_of_pieces sound
  rw [pieces_continue fits] at sound
  obtain ⟨last, rest, others, rfl, lastFits, rfl, finished⟩ := exists_last_of_pieces sound
  have middleFits : 0x80 ≤ middle.toNat ∧ middle.toNat ≤ 0xBF := by
    split at fits <;> split at fits <;> omega
  have notOverlong : byte.toNat = 0xE0 → 0xA0 ≤ middle.toNat := by
    intro least
    simpa [least] using fits.1
  have noSurrogate : byte.toNat = 0xED → middle.toNat ≤ 0x9F := by
    intro surrogate
    simpa [surrogate] using fits.2
  refine ⟨_, others, rest, rfl, ?_, finished⟩
  rw [utf8EncodeChar_ofNat [byte, middle, last] (by omega)]
  · rfl
  · rw [byteValues, if_neg (by omega), if_neg (by omega), if_pos (by omega)]
    simp
    omega

/-- A character of four bytes. -/
theorem readsFirst_four
    {byte : UInt8}
    (inRange : 0xF0 ≤ byte.toNat ∧ byte.toNat < 0xF5)
    (sound : pieces none (byte :: bytes) = characters.map some) :
    ReadsFirst (byte :: bytes) characters := by
  rw [pieces_leadFour inRange] at sound
  obtain ⟨second, bytes, rfl, fits⟩ := exists_next_of_pieces sound
  rw [pieces_continue fits] at sound
  obtain ⟨third, bytes, rfl, thirdFits⟩ := exists_next_of_pieces sound
  rw [pieces_continue thirdFits] at sound
  obtain ⟨last, rest, others, rfl, lastFits, rfl, finished⟩ := exists_last_of_pieces sound
  have secondFits : 0x80 ≤ second.toNat ∧ second.toNat ≤ 0xBF := by
    split at fits <;> split at fits <;> omega
  have notOverlong : byte.toNat = 0xF0 → 0x90 ≤ second.toNat := by
    intro least
    simpa [least] using fits.1
  have notBeyond : byte.toNat = 0xF4 → second.toNat ≤ 0x8F := by
    intro greatest
    simpa [greatest] using fits.2
  refine ⟨_, others, rest, rfl, ?_, finished⟩
  rw [utf8EncodeChar_ofNat [byte, second, third, last] (by omega)]
  · rfl
  · rw [byteValues, if_neg (by omega), if_neg (by omega), if_neg (by omega)]
    simp
    omega

/-- Bytes that are read without a malformed part begin with those of the first character. -/
theorem readsFirst_of_pieces
    {byte : UInt8}
    (sound : pieces none (byte :: bytes) = characters.map some) :
    ReadsFirst (byte :: bytes) characters := by
  by_cases single : byte.toNat < 0x80
  · exact readsFirst_single single sound
  by_cases malformed : byte.toNat < 0xC2 ∨ 0xF5 ≤ byte.toNat
  · rw [pieces_malformed (by omega)] at sound
    cases characters <;> cases sound
  by_cases two : byte.toNat < 0xE0
  · exact readsFirst_two (by omega) sound
  by_cases three : byte.toNat < 0xF0
  · exact readsFirst_three (by omega) sound
  · exact readsFirst_four (by omega) sound

/-- Bytes that are read without a malformed part are those of what is read. -/
theorem eq_encodeChars_of_pieces
    (sound : pieces none bytes = characters.map some) : bytes = encodeChars characters := by
  induction characters generalizing bytes with
  | nil =>
      cases bytes with
      | nil => rfl
      | cons byte bytes =>
          obtain ⟨_, _, _, absurd, -⟩ := readsFirst_of_pieces sound
          cases absurd
  | cons character others ih =>
      cases bytes with
      | nil => cases sound
      | cons byte bytes =>
          obtain ⟨_, _, rest, same, encoded, finished⟩ := readsFirst_of_pieces sound
          cases same
          rw [encoded, ih finished]
          rfl

/-- Bytes are valid, or the text that is read has U+FFFD for a malformed part. -/
theorem isValid_or_replaced (bytes : Bytes) :
    IsValid bytes ∨ '\uFFFD' ∈ (decodeLossy bytes).toList := by
  by_cases malformed : none ∈ pieces none bytes
  · refine .inr ?_
    rw [decodeLossy, String.toList_ofList]
    exact List.mem_map.mpr ⟨none, malformed, rfl⟩
  · have sound : pieces none bytes =
        ((pieces none bytes).map fun piece => piece.getD '\uFFFD').map some := by
      rw [List.map_map]
      refine (List.map_id _).symm.trans (List.map_congr_left fun piece member => ?_)
      cases piece with
      | none => exact absurd member malformed
      | some character => rfl
    refine .inl ⟨decodeLossy bytes, ?_⟩
    rw [encode, decodeLossy, String.toList_ofList]
    exact eq_encodeChars_of_pieces sound

/-- Bytes that are valid are written as they were read, and only these are. -/
theorem encode_decodeLossy_eq_iff {bytes : Bytes} :
    encode (decodeLossy bytes) = bytes ↔ IsValid bytes := by
  constructor
  · intro same
    exact ⟨_, same.symm⟩
  · rintro ⟨text, rfl⟩
    rw [decodeLossy_encode]

/-- Bytes are read as the empty text only if there are none. -/
theorem decodeLossy_eq_empty_iff {bytes : Bytes} : decodeLossy bytes = "" ↔ bytes = [] := by
  constructor
  · intro empty
    rcases isValid_or_replaced bytes with valid | replaced
    · rw [← encode_decodeLossy_eq_iff.mpr valid, empty]
      rfl
    · simp [empty] at replaced
  · rintro rfl
    rfl

end Sound

end Text
end Fulfilment
