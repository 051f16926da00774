import Fulfilment.Number.Binary64
import Fulfilment.Number.Integer

/-!
# Spellings of doubles

A double is spelled with an optional sign and then names infinity or not a number, or is a
decimal: digits with an optional point before, among or behind them, and an optional exponent.  A
lax spelling has white space around it, or else single underscores between its characters.
-/

namespace Fulfilment
namespace Number

/-- Split a text at its first character of a class, which is dropped. -/
def splitAtFirst
    (stops : Char → Bool)
    (characters : List Char) : List Char × Option (List Char) :=
  match characters.dropWhile fun character => !stops character with
  | [] => (characters, none)
  | _ :: rest => (characters.takeWhile fun character => !stops character, some rest)

/-- The exponent of a decimal: a sign and digits. -/
def exponent? (characters : Option (List Char)) : Option Int :=
  match characters with
  | none => some 0
  | some characters =>
      let (negative, digits) := splitSign characters
      if digits = [] then none
      else (digitsValue? digitValue? digits).map (signed negative)

/-- The double of a decimal without a sign. -/
def decimal?
    (negative : Bool)
    (characters : List Char) : Option Double := do
  let (mantissa, exponent) := splitAtFirst (fun c => c = 'e' || c = 'E') characters
  let (whole, fraction) := splitAtFirst (fun c => c = '.') mantissa
  let fraction := fraction.getD []
  let coefficient ← digitsValue? digitValue? (whole ++ fraction)
  let exponent ← exponent? exponent
  if whole ++ fraction = [] then none
  else return .ofDecimal negative coefficient (exponent - (fraction.length : Int))

/-- The double of a spelling. -/
def double? (characters : List Char) : Option Double :=
  let (negative, body) := splitSign characters
  let lower := String.ofList (body.map Char.toLower)
  if lower = "inf" ∨ lower = "infinity" then some (.infinite negative)
  else if lower = "nan" then some .nan
  else decimal? negative body

/-- The double that a lax spelling stands for. -/
def laxDouble? (text : String) : Option Double :=
  let characters := text.toList
  (double? (Text.trimBy Text.isWhiteSpace characters)).or
    ((dropUnderscores? characters).bind double?)

end Number
end Fulfilment
