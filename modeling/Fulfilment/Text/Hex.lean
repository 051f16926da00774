/-!
# Hexadecimal digits

Lower-case digits are written; either case is read.
-/

namespace Fulfilment
namespace Text

/-- The lower-case hexadecimal digit of a number below sixteen. -/
def hexDigit (value : Fin 16) : Char :=
  if value.val < 10 then Char.ofNat (0x30 + value.val) else Char.ofNat (0x57 + value.val)

/-- The value of a hexadecimal digit of either case. -/
def hexValue? (character : Char) : Option (Fin 16) :=
  let code := character.toNat
  if 0x30 ≤ code ∧ code ≤ 0x39 then some (Fin.ofNat 16 (code - 0x30))
  else if 0x61 ≤ code ∧ code ≤ 0x66 then some (Fin.ofNat 16 (code - 0x57))
  else if 0x41 ≤ code ∧ code ≤ 0x46 then some (Fin.ofNat 16 (code - 0x37))
  else none

/-- Reading a written digit gives its value. -/
@[simp]
theorem hexValue?_hexDigit (value : Fin 16) :
    hexValue? (hexDigit value) = some value := by
  revert value
  decide

/-- The digits of a number in a fixed width, most significant first. -/
def hexDigits : Nat → Nat → List (Fin 16)
  | 0, _ => []
  | width + 1, value => hexDigits width (value / 16) ++ [Fin.ofNat 16 value]

/-- A fixed-width list of digits has that width. -/
@[simp]
theorem length_hexDigits (width value : Nat) :
    (hexDigits width value).length = width := by
  induction width generalizing value with
  | zero => rfl
  | succ width ih => simp [hexDigits, ih]

/-- Two lower-case digits for a byte. -/
def hexByte (byte : UInt8) : List Char :=
  (hexDigits 2 byte.toNat).map hexDigit

end Text
end Fulfilment
