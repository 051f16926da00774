import Fulfilment.Json.Token

/-!
# JSON texts

A value is written as its tokens without anything between them, and read by a machine that
keeps the containers still open.  A value may stand inside at most two hundred containers.
-/

namespace Fulfilment
namespace Json

mutual

/-- The tokens of a value. -/
def tokens (value : Json) : List Token :=
  match value with
  | .scalar content => [.scalar content]
  | .array items => .openArray :: itemTokens items
  | .object members => .openObject :: memberTokens members

/-- The tokens of the items of an array and its end. -/
def itemTokens (items : List Json) : List Token :=
  match items with
  | [] => [.closeArray]
  | [last] => tokens last ++ [.closeArray]
  | item :: rest => tokens item ++ .comma :: itemTokens rest

/-- The tokens of the members of an object and its end. -/
def memberTokens (members : List (String × Json)) : List Token :=
  match members with
  | [] => [.closeObject]
  | [(name, value)] => .scalar (.string name) :: .colon :: (tokens value ++ [.closeObject])
  | (name, value) :: rest =>
      .scalar (.string name) :: .colon :: (tokens value ++ .comma :: memberTokens rest)

end

/-- The compact text of a value. -/
def write (value : Json) : List Char :=
  value.tokens.flatMap Token.write

/-- A container still open: its content so far, last first, and for an object the name of the
member whose value is being read. -/
inductive Frame where
  | array (items : List Json)
  | object (members : List (String × Json)) (name : String)
deriving Repr

/-- What may come next: a value, a value or the end of a new array, a name or the end of a new
object, a name, the colon after a name, or what follows a finished value. -/
inductive Expected where
  | value
  | firstItem
  | firstName (members : List (String × Json))
  | name (members : List (String × Json))
  | colon (members : List (String × Json)) (name : String)
  | after (value : Json)
deriving Repr

/-- Where the reading machine stands: what may come next inside which open containers, the
innermost first. -/
structure Place where
  expected : Expected
  frames : List Frame
deriving Repr

namespace Place

/-- The most containers around a value. -/
def deepest : Nat := 200

/-- A token where a value may begin. -/
def beginValue?
    (frames : List Frame)
    (token : Token) : Option Place :=
  if deepest < frames.length then none
  else
    match token with
    | .scalar content => some ⟨.after (.scalar content), frames⟩
    | .openArray => some ⟨.firstItem, .array [] :: frames⟩
    | .openObject => some ⟨.firstName [], frames⟩
    | .closeArray | .closeObject | .comma | .colon => none

/-- A token after a finished value. -/
def afterValue?
    (value : Json)
    (frames : List Frame)
    (token : Token) : Option Place :=
  match frames, token with
  | .array items :: outer, .comma => some ⟨.value, .array (value :: items) :: outer⟩
  | .array items :: outer, .closeArray =>
      some ⟨.after (.array (value :: items).reverse), outer⟩
  | .object members name :: outer, .comma => some ⟨.name ((name, value) :: members), outer⟩
  | .object members name :: outer, .closeObject =>
      some ⟨.after (.object ((name, value) :: members).reverse), outer⟩
  | _, _ => none

/-- One token. -/
def step?
    (place : Place)
    (token : Token) : Option Place :=
  match place.expected, token with
  | .value, token => beginValue? place.frames token
  | .firstItem, .closeArray => some ⟨.after (.array []), place.frames.tail⟩
  | .firstItem, token => beginValue? place.frames token
  | .firstName _, .closeObject => some ⟨.after (.object []), place.frames⟩
  | .firstName members, .scalar (.string name) => some ⟨.colon members name, place.frames⟩
  | .name members, .scalar (.string name) => some ⟨.colon members name, place.frames⟩
  | .colon members name, .colon => some ⟨.value, .object members name :: place.frames⟩
  | .after value, token => afterValue? value place.frames token
  | _, _ => none

/-- The value of a place where nothing is open and a value is finished. -/
def value? (place : Place) : Option Json :=
  match place with
  | ⟨.after value, []⟩ => some value
  | _ => none

end Place

/-- The value of a list of tokens. -/
def ofTokens? (tokens : List Token) : Option Json :=
  (tokens.foldlM Place.step? ⟨.value, []⟩).bind Place.value?

/-- The value of a JSON text. -/
def read? (characters : List Char) : Option Json :=
  (Token.scan? characters).bind ofTokens?

end Json
end Fulfilment
