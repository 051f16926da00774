import Fulfilment.Proofs.Json.Token

/-!
# Reading written whole numbers

The digits of a whole number are read one after another.  Behind the last of them stands a bracket
or separator, which ends the number.
-/

namespace Fulfilment
namespace Json

/-- The numeral of a whole number whose digits have been read. -/
def Numeral.whole
    (negative : Bool)
    (value : Nat) : Numeral where
  part := if value = 0 then .zero else .whole
  negative := negative
  coefficient := value
  wholeDigits := (Number.decimalDigits value).length
  fractionDigits := 0
  exponentNegative := false
  exponent := 0

namespace Token

/-- The state from which the digits of a whole number are read. -/
def beforeDigits (negative : Bool) : State :=
  if negative then .numeral ⟨.sign, true, 0, 0, 0, false, 0⟩ else .between

/-- A digit is no bracket, separator, space or quote. -/
theorem betweenStep?_digit
    {digit : Nat}
    (small : digit < 10) :
    betweenStep? digit.digitChar =
      (Numeral.start? digit.digitChar).map fun numeral => (.numeral numeral, []) :=
  match digit with
  | 0 | 1 | 2 | 3 | 4 | 5 | 6 | 7 | 8 | 9 => rfl
  | _ + 10 => absurd small (by omega)

/-- The first digit of a whole number. -/
theorem step?_firstDigit
    {negative : Bool}
    {digit : Nat}
    (small : digit < 10) :
    step? (beforeDigits negative) digit.digitChar =
      some (.numeral (Numeral.whole negative digit), []) := by
  have read := Number.digitValue?_digitChar small
  have digits := Number.decimalDigits_of_lt_ten small
  cases negative with
  | true =>
      simp [beforeDigits, step?, Numeral.push?, read, Numeral.pushDigit?, Numeral.pushWhole,
        Numeral.whole, digits]
  | false =>
      have notSign : digit.digitChar ≠ '-' := by
        apply Nat.digitChar_ne
        decide
      simp [beforeDigits, step?, betweenStep?_digit small, Numeral.start?, notSign, read,
        Numeral.whole, digits]

/-- A further digit of a whole number. -/
theorem step?_furtherDigit
    {negative : Bool}
    {value : Nat}
    (large : 10 ≤ value) :
    step? (.numeral (Numeral.whole negative (value / 10))) (value % 10).digitChar =
      some (.numeral (Numeral.whole negative value), []) := by
  have read := Number.digitValue?_digitChar (Nat.mod_lt value (by decide : 10 > 0))
  have digits := Number.decimalDigits_of_ten_le large
  have rest : value / 10 ≠ 0 := by omega
  have positive : value ≠ 0 := by omega
  have composed : value / 10 * 10 + value % 10 = value := by omega
  simp [step?, Numeral.push?, read, Numeral.pushDigit?, Numeral.pushWhole, Numeral.whole,
    rest, positive, composed, digits]

/-- The digits of a whole number are read as the number. -/
theorem scanFrom?_digits
    (negative : Bool)
    (value : Nat)
    (rest : List Char) :
    scanFrom? (beforeDigits negative) (Number.decimalDigits value ++ rest) =
      scanFrom? (.numeral (Numeral.whole negative value)) rest := by
  induction value using Nat.strongRecOn generalizing rest with
  | ind value ih =>
      by_cases small : value < 10
      · rw [Number.decimalDigits_of_lt_ten small, List.singleton_append,
          scanFrom?_silent (step?_firstDigit small)]
      · have large : 10 ≤ value := by omega
        rw [Number.decimalDigits_of_ten_le large, List.append_assoc,
          ih (value / 10) (by omega), List.singleton_append,
          scanFrom?_silent (step?_furtherDigit large)]

/-- A bracket or separator ends a whole number. -/
theorem step?_afterWhole
    {negative : Bool}
    {value : Nat}
    {character : Char}
    {token : Token}
    (short : (Number.decimalDigits value).length ≤ Number.mostDigits)
    (marked : mark? character = some token) :
    step? (.numeral (Numeral.whole negative value)) character =
      some (.between, [.scalar (.integer (Number.signed negative value)), token]) := by
  have within : ¬Number.mostDigits < (Number.decimalDigits value).length := by omega
  have valued :
      (Numeral.whole negative value).value? =
        some (.integer (Number.signed negative value)) := by
    by_cases zero : value = 0 <;> simp [Numeral.whole, Numeral.value?, within, zero]
    rw [zero] at within
    omega
  have stepped := step?_between_mark marked
  have stuck : (Numeral.whole negative value).push? character = none := by
    unfold mark? at marked
    repeat' split at marked
    all_goals
      cases marked
      try subst character
      try (by_cases zero : value = 0 <;> simp [Numeral.push?, Numeral.whole, zero] <;> rfl)
  have unsigned : ¬((Numeral.whole negative value).part = .sign ∧ character = 'I') := by
    rintro ⟨part, -⟩
    by_cases zero : value = 0 <;> simp [Numeral.whole, zero] at part
  change betweenStep? character = some (.between, [token]) at stepped
  simp [step?, stuck, unsigned, afterScalar?, valued, stepped]

/-- A written whole number is scanned up to the bracket or separator behind it. -/
theorem scanFrom?_integer
    {number : Int}
    {character : Char}
    {token : Token}
    (short : (Number.decimalDigits number.natAbs).length ≤ Number.mostDigits)
    (marked : mark? character = some token)
    (rest : List Char) :
    scanFrom? .between (writeScalar (.integer number) ++ character :: rest) =
      (scanFrom? .between (character :: rest)).map (.scalar (.integer number) :: ·) := by
  have written :
      scanFrom? .between (writeScalar (.integer number) ++ character :: rest) =
        scanFrom? (beforeDigits (number < 0))
          (Number.decimalDigits number.natAbs ++ character :: rest) := by
    by_cases negative : number < 0
    · simp only [writeScalar, Number.integerText, negative, if_true, decide_true, List.cons_append]
      exact scanFrom?_silent rfl _
    · simp [writeScalar, Number.integerText, negative, beforeDigits]
  have value : Number.signed (number < 0) number.natAbs = number := by
    by_cases negative : number < 0
    · simp only [Number.signed, negative, decide_true, if_true]
      omega
    · simp only [Number.signed, negative, decide_false, Bool.false_eq_true, if_false]
      omega
  rw [written, scanFrom?_digits, scanFrom?_emit (step?_afterWhole short marked), value,
    scanFrom?_mark marked]
  simp [Function.comp_def]

end Token
end Json
end Fulfilment
