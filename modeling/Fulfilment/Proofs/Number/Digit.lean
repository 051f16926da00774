import Fulfilment.Number.Integer

/-!
# Reading written digits

A written decimal digit is read as its value, and the last digit of a number comes off its
written form.
-/

namespace Fulfilment
namespace Number

/-- A written digit has its value. -/
theorem digitValue?_digitChar
    {digit : Nat}
    (small : digit < 10) :
    digitValue? digit.digitChar = some digit := by
  have code := Nat.toNat_digitChar_of_lt_ten small
  have lower : '0' ≤ digit.digitChar := by
    rw [Char.le_def, UInt32.le_iff_toNat_le]
    change 48 ≤ digit.digitChar.toNat
    omega
  have upper : digit.digitChar ≤ '9' := by
    rw [Char.le_def, UInt32.le_iff_toNat_le]
    change digit.digitChar.toNat ≤ 57
    omega
  simp [Text.asciiDigit?, lower, upper, code]

/-- A number below ten is one digit. -/
theorem decimalDigits_of_lt_ten
    {value : Nat}
    (small : value < 10) :
    decimalDigits value = [value.digitChar] :=
  Nat.toDigits_of_lt_base small

/-- The last digit of a greater number. -/
theorem decimalDigits_of_ten_le
    {value : Nat}
    (large : 10 ≤ value) :
    decimalDigits value = decimalDigits (value / 10) ++ [(value % 10).digitChar] :=
  Nat.toDigits_of_base_le (by decide) large

end Number
end Fulfilment
