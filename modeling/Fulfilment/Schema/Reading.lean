import Fulfilment.Schema.Issue
import Fulfilment.Json.Basic

/-!
# Readings

The result of reading a value: the value read, or every issue found, in order.  A moment that no
UTC wall clock tells ends the reading and hides all issues.  Readings of parts are combined so
that the issues of all parts are kept.
-/

namespace Fulfilment
namespace Schema

/-- The result of reading a value. -/
inductive Reading (α : Type) where
  | ok (value : α)
  | invalid (issues : List Issue)
  | outOfCalendar
deriving Repr

namespace Reading

/-- A reading that fails with one issue of the whole value. -/
def issue (kind : IssueKind) : Reading α :=
  .invalid [⟨kind, []⟩]

/-- Change the value read. -/
def map
    (change : α → β)
    (reading : Reading α) : Reading β :=
  match reading with
  | .ok value => .ok (change value)
  | .invalid issues => .invalid issues
  | .outOfCalendar => .outOfCalendar

/-- Apply what the first part gives to what the second gives, with the issues of both. -/
def both
    (first : Reading (α → β))
    (second : Reading α) : Reading β :=
  match first, second with
  | .outOfCalendar, _ => .outOfCalendar
  | _, .outOfCalendar => .outOfCalendar
  | .invalid firstIssues, .invalid secondIssues => .invalid (firstIssues ++ secondIssues)
  | .invalid issues, .ok _ => .invalid issues
  | .ok _, .invalid issues => .invalid issues
  | .ok change, .ok value => .ok (change value)

/-- Read on from the value read. -/
def andThen
    (reading : Reading α)
    (next : α → Reading β) : Reading β :=
  match reading with
  | .ok value => next value
  | .invalid issues => .invalid issues
  | .outOfCalendar => .outOfCalendar

/-- The value an optional value gives, or an issue of the whole. -/
def ofOption
    (kind : IssueKind)
    (value : Option α) : Reading α :=
  match value with
  | some value => .ok value
  | none => issue kind

/-- The reading of a part seen from the value that holds it under a name. -/
def under
    (name : String)
    (reading : Reading α) : Reading α :=
  match reading with
  | .ok value => .ok value
  | .invalid issues => .invalid (issues.map (Issue.under name))
  | .outOfCalendar => .outOfCalendar

instance : Functor Reading where
  map := map

instance : Seq Reading where
  seq first second := both first (second ())

/-- Two good parts make a good whole. -/
@[simp]
theorem both_ok
    (change : α → β)
    (value : α) :
    both (.ok change) (.ok value) = .ok (change value) := rfl

/-- A whole is good only if both parts are. -/
theorem both_eq_ok_iff
    {first : Reading (α → β)}
    {second : Reading α}
    {result : β} :
    both first second = .ok result ↔
      ∃ change value, first = .ok change ∧ second = .ok value ∧ change value = result := by
  cases first <;> cases second <;> simp [both]

end Reading

/-- The members of an object. -/
abbrev Members := List (String × Json)

/-- Read the members of an object. -/
def object
    (read : Members → Reading α)
    (value : Json) : Reading α :=
  match value with
  | .object members => read members
  | .scalar _ | .array _ => .issue .modelType

/-- Read a member that must be there. -/
def field
    (name : String)
    (read : Json → Reading α)
    (members : Members) : Reading α :=
  match Json.lookup? name members with
  | some value => (read value).under name
  | none => (Reading.issue .missing).under name

/-- Read a member, or take a default if it is absent. -/
def fieldOr
    (name : String)
    (default : α)
    (read : Json → Reading α)
    (members : Members) : Reading α :=
  match Json.lookup? name members with
  | some value => (read value).under name
  | none => .ok default

/-- Read null as absence. -/
def nullable
    (read : Json → Reading α)
    (value : Json) : Reading (Option α) :=
  match value with
  | .scalar .null => .ok none
  | value => (read value).map some

/-- Read a member that may be absent or null. -/
def optionalField
    (name : String)
    (read : Json → Reading α) : Members → Reading (Option α) :=
  fieldOr name none (nullable read)

/-- Read a member under its name, or under another name if it is absent. -/
def fieldOrUnder
    (name otherName : String)
    (read : Json → Reading α)
    (members : Members) : Reading α :=
  match Json.lookup? name members, Json.lookup? otherName members with
  | some value, _ => (read value).under name
  | none, some value => (read value).under otherName
  | none, none => (Reading.issue .missing).under name

end Schema
end Fulfilment
