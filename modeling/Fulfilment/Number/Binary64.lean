/-!
# Double-precision numbers

A double as an exact value: a sign, a whole mantissa and a power of two.  The main operation takes
a quotient of whole numbers to the nearest double, ties to the even mantissa.
-/

namespace Fulfilment
namespace Number

/-- A double-precision number.  A finite one is the mantissa times two to the exponent. -/
inductive Double where
  | finite (negative : Bool) (mantissa : Nat) (exponent : Int)
  | infinite (negative : Bool)
  | nan
deriving DecidableEq, Repr

namespace Double

/-- The least exponent of a finite double with a whole mantissa. -/
def leastExponent : Int := -1074

/-- The greatest exponent of a finite double whose mantissa has 53 bits. -/
def greatestExponent : Int := 971

/-- A quotient as a quotient over a power of two: numerator and denominator of
`numerator / (denominator * 2 ^ exponent)`. -/
def scaleBy
    (numerator denominator : Nat)
    (exponent : Int) : Nat × Nat :=
  match exponent with
  | .ofNat power => (numerator, denominator * Nat.pow 2 power)
  | .negSucc power => (numerator * Nat.pow 2 (power + 1), denominator)

/-- The nearest whole number to a quotient, a tie going to the even neighbour. -/
def roundHalfEven (numerator denominator : Nat) : Nat :=
  let whole := numerator / denominator
  let twice := 2 * (numerator % denominator)
  if twice < denominator then whole
  else if denominator < twice then whole + 1
  else whole + whole % 2

/-- The nearest whole number to a quotient, a tie going up. -/
def roundHalfUp (numerator denominator : Nat) : Nat :=
  (2 * numerator + denominator) / (2 * denominator)

/-- The exponent at which a positive quotient has a 53-bit whole part, or the least one. -/
def exponentOf (numerator denominator : Nat) : Int :=
  let guess : Int := (numerator.log2 : Int) - (denominator.log2 : Int) - 52
  let scaled := scaleBy numerator denominator guess
  let exact := if scaled.1 / scaled.2 < Nat.pow 2 52 then guess - 1 else guess
  max exact leastExponent

/-- The nearest double to a quotient of whole numbers. -/
def nearest
    (negative : Bool)
    (numerator denominator : Nat) : Double :=
  if numerator = 0 then .finite negative 0 0
  else
    let exponent := exponentOf numerator denominator
    let scaled := scaleBy numerator denominator exponent
    let mantissa := roundHalfEven scaled.1 scaled.2
    let carried := mantissa = Nat.pow 2 53
    let mantissa := if carried then Nat.pow 2 52 else mantissa
    let exponent := if carried then exponent + 1 else exponent
    if greatestExponent < exponent then .infinite negative
    else .finite negative mantissa exponent

/-- The nearest double to a decimal: the coefficient times ten to the exponent.  Decimals whose
size is beyond every double are settled by their number of digits. -/
def ofDecimal
    (negative : Bool)
    (coefficient : Nat)
    (exponent : Int) : Double :=
  if coefficient = 0 then .finite negative 0 0
  else
    let magnitude : Int := exponent + ((coefficient.log2 * 30103 / 100000 : Nat) : Int)
    if 400 < magnitude then .infinite negative
    else if magnitude < -400 then .finite negative 0 0
    else
      match exponent with
      | .ofNat power => nearest negative (coefficient * Nat.pow 10 power) 1
      | .negSucc power => nearest negative coefficient (Nat.pow 10 (power + 1))

/-- The magnitude of a finite double as a quotient of whole numbers. -/
def quotient
    (mantissa : Nat)
    (exponent : Int) : Nat × Nat :=
  match exponent with
  | .ofNat power => (mantissa * Nat.pow 2 power, 1)
  | .negSucc power => (mantissa, Nat.pow 2 (power + 1))

/-- The signed numerator and the denominator of a finite double. -/
def ratio? : Double → Option (Int × Nat)
  | .finite negative mantissa exponent =>
      let (numerator, denominator) := quotient mantissa exponent
      some (if negative then -(numerator : Int) else (numerator : Int), denominator)
  | .infinite _ | .nan => none

end Double

end Number
end Fulfilment
