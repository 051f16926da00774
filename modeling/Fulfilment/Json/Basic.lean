import Fulfilment.Number.Binary64

/-!
# JSON values

A value is a scalar, an array or an object.  Numbers written without a fraction or an exponent
are exact integers.  An object keeps its members in written order, and the last member of a name
is the one that counts.
-/

namespace Fulfilment

/-- A JSON value that holds no other value. -/
inductive Scalar where
  | null
  | bool (value : Bool)
  | integer (value : Int)
  | real (value : Number.Double)
  | string (value : String)
deriving DecidableEq, Repr

/-- A JSON value. -/
inductive Json where
  | scalar (value : Scalar)
  | array (items : List Json)
  | object (members : List (String × Json))
deriving Repr

namespace Json

/-- The value without content. -/
def null : Json := .scalar .null

instance : Inhabited Json := ⟨null⟩

/-- A truth value. -/
def bool (value : Bool) : Json := .scalar (.bool value)

/-- A whole number. -/
def integer (value : Int) : Json := .scalar (.integer value)

/-- A text. -/
def string (value : String) : Json := .scalar (.string value)

/-- The last member of a name. -/
def lookup?
    (name : String)
    (members : List (String × Json)) : Option Json :=
  (members.reverse.find? fun member => member.1 == name).map Prod.snd

/-- Without members there is nothing to find. -/
@[simp]
theorem lookup?_nil (name : String) :
    lookup? name [] = none := rfl

/-- A later member of the same name hides the earlier ones. -/
theorem lookup?_append_same
    (name : String)
    (members : List (String × Json))
    (value : Json) :
    lookup? name (members ++ [(name, value)]) = some value := by
  simp [lookup?]

end Json

end Fulfilment
