import Fulfilment.Number.Binary64
import Fulfilment.Number.Integer

/-!
# Shortest decimal text of a double

The fewest digits that read back to the same double, of those the nearest.  Whole and moderate
numbers are written positionally, others with an exponent; the bounds stand in one record.
-/

namespace Fulfilment
namespace Number

/-- A positive decimal: its digits as a number, and the power of ten of its last digit. -/
structure Decimal where
  coefficient : Nat
  exponent : Int
deriving DecidableEq, Repr

namespace Decimal

/-- Move trailing zeros of the digits into the exponent, at most `fuel` of them. -/
def dropZeros : Nat → Decimal → Decimal
  | 0, decimal => decimal
  | fuel + 1, decimal =>
      if decimal.coefficient ≠ 0 ∧ decimal.coefficient % 10 = 0 then
        dropZeros fuel ⟨decimal.coefficient / 10, decimal.exponent + 1⟩
      else decimal

/-- The quotient of a positive ratio by a power of ten. -/
def scaledRatio
    (numerator denominator : Nat)
    (exponent : Int) : Nat × Nat :=
  match exponent with
  | .ofNat power => (numerator, denominator * Nat.pow 10 power)
  | .negSucc power => (numerator * Nat.pow 10 (power + 1), denominator)

/-- The power of ten of the leading digit of a positive ratio. -/
def leadingExponent (numerator denominator : Nat) : Int :=
  let bits : Int := (numerator.log2 : Int) - (denominator.log2 : Int)
  let guess : Int := Int.fdiv (bits * 30103) 100000
  let fits (exponent : Int) : Bool :=
    let scaled := scaledRatio numerator denominator exponent
    scaled.2 ≤ scaled.1 && scaled.1 < 10 * scaled.2
  ([guess - 1, guess, guess + 1, guess + 2].find? fits).getD guess

/-- The decimal with the given number of digits that is nearest to a finite double among the two
neighbours that read back to it, if one does. -/
def withDigits?
    (mantissa : Nat)
    (binaryExponent : Int)
    (digits : Nat) : Option Decimal :=
  let (numerator, denominator) := Double.quotient mantissa binaryExponent
  let unit := leadingExponent numerator denominator - ((digits : Int) - 1)
  let scaled := scaledRatio numerator denominator unit
  let below := scaled.1 / scaled.2
  let remainder := scaled.1 % scaled.2
  let readsBack (coefficient : Nat) : Bool :=
    Double.ofDecimal false coefficient unit = .finite false mantissa binaryExponent
  let nearerBelow :=
    2 * remainder < scaled.2 || (2 * remainder = scaled.2 && below % 2 = 0)
  let order := if nearerBelow then [below, below + 1] else [below + 1, below]
  (order.find? readsBack).map fun coefficient => ⟨coefficient, unit⟩

/-- The shortest decimal of a positive finite double.  Seventeen digits always suffice. -/
def shortest
    (mantissa : Nat)
    (binaryExponent : Int) : Decimal :=
  let found := (List.range 17).findSome? fun index =>
    withDigits? mantissa binaryExponent (index + 1)
  dropZeros 20 (found.getD ⟨mantissa, binaryExponent⟩)

end Decimal

/-- How a decimal is laid out. -/
structure Layout where
  /-- The least power of ten of the leading digit written positionally. -/
  leastPositional : Int
  /-- The greatest power of ten of the leading digit written positionally. -/
  greatestPositional : Int
  /-- Least number of digits of a written exponent. -/
  exponentWidth : Nat
deriving DecidableEq, Repr

/-- Numbers from 0.0001 up to below 10 ^ 16 are positional and exponents have two digits. -/
def Layout.standard : Layout := ⟨-4, 15, 2⟩

/-- Pad a digit text with zeros on the left. -/
def padLeft
    (width : Nat)
    (digits : List Char) : List Char :=
  List.replicate (width - digits.length) '0' ++ digits

/-- The text of a positive decimal. -/
def Layout.write
    (layout : Layout)
    (decimal : Decimal) : List Char :=
  let digits := decimalDigits decimal.coefficient
  let leading : Int := decimal.exponent + (digits.length : Int) - 1
  if layout.leastPositional ≤ leading ∧ leading ≤ layout.greatestPositional then
    match decimal.exponent with
    | .ofNat zeros => digits ++ List.replicate zeros '0' ++ ['.', '0']
    | .negSucc _ =>
        if 0 ≤ leading then
          let whole := (leading + 1).toNat
          digits.take whole ++ '.' :: digits.drop whole
        else
          '0' :: '.' :: (List.replicate (-leading - 1).toNat '0' ++ digits)
  else
    let mantissa :=
      match digits with
      | [only] => [only]
      | first :: rest => first :: '.' :: rest
      | [] => []
    let sign := if leading < 0 then '-' else '+'
    mantissa ++ 'e' :: sign :: padLeft layout.exponentWidth (decimalDigits leading.natAbs)

/-- The text of a double: `inf`, `-inf` and `nan` for the numbers that are not finite. -/
def Double.text (value : Double) : String :=
  match value with
  | .nan => "nan"
  | .infinite false => "inf"
  | .infinite true => "-inf"
  | .finite negative mantissa exponent =>
      let body :=
        if mantissa = 0 then ['0', '.', '0']
        else Layout.standard.write (Decimal.shortest mantissa exponent)
      String.ofList (if negative then '-' :: body else body)

end Number
end Fulfilment
