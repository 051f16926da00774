import Fulfilment.Json.Basic
import Fulfilment.Number.Integer

/-!
# JSON numerals

A machine that reads a numeral one character at a time: an optional minus sign, a whole part
without leading zeros, an optional fraction and an optional exponent.  The whole part has a limited
number of digits, the other parts have not.
-/

namespace Fulfilment
namespace Json

/-- The part of a numeral that the last character belongs to. -/
inductive NumeralPart where
  | sign
  | zero
  | whole
  | point
  | fraction
  | mark
  | exponentSign
  | exponent
deriving DecidableEq, Repr

/-- What has been read of a numeral: its digits as one number, how many of them stand before and
after the point, and its exponent. -/
structure Numeral where
  part : NumeralPart
  negative : Bool
  coefficient : Nat
  wholeDigits : Nat
  fractionDigits : Nat
  exponentNegative : Bool
  exponent : Nat
deriving DecidableEq, Repr

namespace Numeral

/-- The numeral that a character begins. -/
def start? (character : Char) : Option Numeral :=
  if character = '-' then some ⟨.sign, true, 0, 0, 0, false, 0⟩
  else
    (Number.digitValue? character).map fun digit =>
      ⟨if digit = 0 then .zero else .whole, false, digit, 1, 0, false, 0⟩

/-- One more digit of the whole part. -/
def pushWhole
    (numeral : Numeral)
    (part : NumeralPart)
    (digit : Nat) : Numeral :=
  { numeral with
    part
    coefficient := numeral.coefficient * 10 + digit
    wholeDigits := numeral.wholeDigits + 1 }

/-- One more digit of the fraction. -/
def pushFraction
    (numeral : Numeral)
    (digit : Nat) : Numeral :=
  { numeral with
    part := .fraction
    coefficient := numeral.coefficient * 10 + digit
    fractionDigits := numeral.fractionDigits + 1 }

/-- One more digit of the exponent. -/
def pushExponent
    (numeral : Numeral)
    (digit : Nat) : Numeral :=
  { numeral with
    part := .exponent
    exponent := numeral.exponent * 10 + digit }

/-- The numeral read on by a digit, where one may stand. -/
def pushDigit?
    (numeral : Numeral)
    (digit : Nat) : Option Numeral :=
  match numeral.part with
  | .sign => some (numeral.pushWhole (if digit = 0 then .zero else .whole) digit)
  | .zero => none
  | .whole => some (numeral.pushWhole .whole digit)
  | .point | .fraction => some (numeral.pushFraction digit)
  | .mark | .exponentSign | .exponent => some (numeral.pushExponent digit)

/-- The numeral read on by one character, if the character can continue it. -/
def push?
    (numeral : Numeral)
    (character : Char) : Option Numeral :=
  match Number.digitValue? character with
  | some digit => numeral.pushDigit? digit
  | none =>
      match numeral.part with
      | .zero | .whole =>
          if character = '.' then some { numeral with part := .point }
          else if character = 'e' ∨ character = 'E' then some { numeral with part := .mark }
          else none
      | .fraction =>
          if character = 'e' ∨ character = 'E' then some { numeral with part := .mark }
          else none
      | .mark =>
          if character = '+' then some { numeral with part := .exponentSign }
          else if character = '-' then
            some { numeral with part := .exponentSign, exponentNegative := true }
          else none
      | .sign | .point | .exponentSign | .exponent => none

/-- The number of a numeral that may end where it stands. -/
def value? (numeral : Numeral) : Option Scalar :=
  if Number.mostDigits < numeral.wholeDigits then none
  else
    match numeral.part with
    | .zero | .whole => some (.integer (Number.signed numeral.negative numeral.coefficient))
    | .fraction | .exponent =>
        let exponent := Number.signed numeral.exponentNegative numeral.exponent
        some (.real (.ofDecimal numeral.negative numeral.coefficient
          (exponent - (numeral.fractionDigits : Int))))
    | .sign | .point | .mark | .exponentSign => none

end Numeral

end Json
end Fulfilment
