import Fulfilment.Number.Integer
import Fulfilment.Text.Quoted

/-!
# Refused numbers

What is said about a text that is no whole number.
-/

namespace Fulfilment
namespace Number

/-- The most characters of a quoted text that a refusal shows. -/
def longestQuote : Nat := 200

/-- What is said about a text that stands for no whole number. -/
def refusal
    (text : String)
    (fault : SpellingFault) : String :=
  match fault with
  | .form =>
      "invalid literal for int() with base 10: "
        ++ String.ofList ((Text.quoted text).take longestQuote)
  | .tooLong digits =>
      s!"Exceeds the limit ({mostDigits} digits) for integer string conversion: "
        ++ s!"value has {digits} digits; use sys.set_int_max_str_digits() to increase the limit"

end Number
end Fulfilment
