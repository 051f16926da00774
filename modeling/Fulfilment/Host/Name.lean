import Fulfilment.Host.Address
import Fulfilment.Host.Label
import Fulfilment.Text.Quoted

/-!
# Hosts

A host is named by a numeric address, by a text of ASCII, or by labels of any script, which are
encoded when they are sent.
-/

namespace Fulfilment
namespace Host

/-- The characters that separate labels. -/
def isDot (character : Char) : Bool :=
  character = '.' || character = '\u3002' || character = '\uFF0E' || character = '\uFF61'

/-- The most characters of an encoded label. -/
def longestLabel : Nat := 63

/-- The most characters of an encoded name, a last dot not counted. -/
def longestName : Nat := 253

/-- The labels of a name in lower case.  A last dot begins no label. -/
def labels (name : List Char) : List (List Char) :=
  let labels := Text.fields isDot (Text.lowerCase name)
  if labels.getLast? = some [] then labels.dropLast else labels

/-- Whether a text is a name of labels. -/
def isName (name : List Char) : Bool :=
  let encoded := (labels name).map encodedLabel
  (labels name).all isLabel && encoded.all (·.length ≤ longestLabel)
    && encoded.foldr (fun label rest => label.length + 1 + rest) 0 ≤ longestName + 1

/-- Why a text names no host. -/
inductive Fault where
  | version4
  | version6
  | name
deriving DecidableEq, Repr

/-- What is wrong with a host. -/
def Fault.message
    (fault : Fault)
    (host : List Char) : String :=
  let shown := String.ofList (Text.quoted (String.ofList host))
  match fault with
  | .version4 => s!"Invalid IPv4 address: {shown}"
  | .version6 => s!"Invalid IPv6 address: {shown}"
  | .name => s!"Invalid IDNA hostname: {shown}"

/-- The address between brackets, if a host is in brackets. -/
def bracketed? (host : List Char) : Option (List Char) :=
  match host with
  | '[' :: rest => if rest.getLast? = some ']' then some rest.dropLast else none
  | _ => none

/-- Refuse a text that names no host.  The empty text names none, but is not refused. -/
def check (host : List Char) : Except Fault Unit :=
  if looksNumeric host then if isVersion4 host then .ok () else .error .version4
  else
    match bracketed? host with
    | some address => if isVersion6 address then .ok () else .error .version6
    | none =>
        if host.all (·.toNat < Punycode.firstCode) || isName host then .ok () else .error .name

end Host
end Fulfilment
