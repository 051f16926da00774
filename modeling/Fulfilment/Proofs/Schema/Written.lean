import Fulfilment.Event.Wire
import Fulfilment.Proofs.Calendar.DayNumber
import Fulfilment.Proofs.Calendar.Text
import Fulfilment.Proofs.Uuid
import Fulfilment.Schema.Scalar

/-!
# Reading written members

A scalar is read as what was written, and a member of an object is found under its name among
members of other names.  So a field whose value is read back is read back from the object.
-/

namespace Fulfilment
namespace Schema

namespace Reading

/-- Changing a value that was read. -/
@[simp]
theorem map_ok
    (change : α → β)
    (value : α) :
    change <$> (ok value : Reading α) = ok (change value) := rfl

/-- Two parts that were read. -/
@[simp]
theorem seq_ok
    (change : α → β)
    (value : α) :
    (ok change : Reading (α → β)) <*> ok value = ok (change value) := rfl

/-- A part that was read, seen from the whole. -/
@[simp]
theorem under_ok
    (name : String)
    (value : α) :
    (ok value : Reading α).under name = ok value := rfl

end Reading

/-! ## Scalars -/

/-- A written text is read back. -/
@[simp]
theorem string_string (text : String) :
    string (.string text) = .ok text := rfl

/-- A written identifier is read back. -/
@[simp]
theorem uuid_uuid (identifier : Uuid) :
    uuid (Wire.uuid identifier) = .ok identifier := by
  change Reading.ofOption .uuidParsing (Uuid.ofText? identifier.text) = _
  rw [Uuid.ofText?_text]
  rfl

/-- A written whole number is read back. -/
@[simp]
theorem integer_integer (number : Int) :
    integer (.integer number) = .ok number := rfl

/-- A written positive number is read back. -/
theorem positiveInteger_integer
    {number : Int}
    (positive : 0 < number) :
    positiveInteger (.integer number) = .ok number := by
  rw [positiveInteger, integer_integer, Reading.andThen, if_pos positive]

/-- A number that fits into a word. -/
theorem word_of_fits
    {number : Int}
    (lower : 0 ≤ number)
    (upper : number < (UInt64.size : Int)) :
    word number = .ok (UInt64.ofNat number.toNat) := by
  rw [word, if_neg (Int.not_lt.mpr lower), if_neg (Int.not_le.mpr upper)]

/-- A written word is read back. -/
@[simp]
theorem unsigned_integer (number : UInt64) :
    unsigned (.integer number.toNat) = .ok number := by
  have upper : (number.toNat : Int) < (UInt64.size : Int) := by
    have bound := number.toNat_lt
    exact_mod_cast bound
  rw [unsigned, integer_integer, Reading.andThen, word_of_fits (Int.natCast_nonneg _) upper,
    Int.toNat_natCast, UInt64.ofNat_toNat]

/-- A written datetime is read back. -/
@[simp]
theorem datetime_datetime (value : DateTime) :
    datetime (Wire.datetime value) = .ok value := by
  rw [Wire.datetime, Json.string, datetime]
  simp only [String.toList_ofList, DateTime.ofTextOrUnix_text]

/-- A written moment is read back. -/
@[simp]
theorem moment_moment (value : Moment) :
    moment (Wire.moment value) = .ok value := by
  rw [moment, Wire.moment, datetime_datetime, Reading.andThen]
  simp only [Moment.moment?_toDateTime]

/-- A written word is not null. -/
theorem nullable_unsigned (number : UInt64) :
    nullable unsigned (.integer number.toNat) = .ok (some number) := by
  change (unsigned (.integer number.toNat)).map some = _
  rw [unsigned_integer]
  rfl

/-- A written identifier is not null. -/
theorem nullable_uuid (identifier : Uuid) :
    nullable uuid (Wire.uuid identifier) = .ok (some identifier) := by
  change (uuid (Wire.uuid identifier)).map some = _
  rw [uuid_uuid]
  rfl

/-! ## Members -/

/-- Members are looked for from the last to the first. -/
@[simp]
theorem lookup?_append
    (name : String)
    (first second : Members) :
    Json.lookup? name (first ++ second) =
      (Json.lookup? name second).or (Json.lookup? name first) := by
  simp only [Json.lookup?, List.reverse_append, List.find?_append]
  cases second.reverse.find? fun member => member.1 == name <;> rfl

/-- A member is found under its name. -/
@[simp]
theorem lookup?_member
    (name other : String)
    (value : Json) :
    Json.lookup? name (Wire.member other value) = if other = name then some value else none := by
  by_cases same : other = name <;> simp [Json.lookup?, Wire.member, same]

/-- An optional member is found under its name if it is there. -/
@[simp]
theorem lookup?_optionalMember
    (name other : String)
    (write : α → Json)
    (value : Option α) :
    Json.lookup? name (Wire.optionalMember other write value) =
      if other = name then value.map write else none := by
  cases value with
  | none => simp [Wire.optionalMember]
  | some value => simp [Wire.optionalMember]

variable {members : Members} {name otherName : String} {read : Json → Reading α}

/-- A field that is found and read back. -/
theorem field_of_lookup?
    {found : Json}
    {value : α}
    (isFound : Json.lookup? name members = some found)
    (isRead : read found = .ok value) :
    field name read members = .ok value := by
  simp [field, isFound, isRead]

/-- A field with a default that is found and read back. -/
theorem fieldOr_of_lookup?
    {found : Json}
    {value default : α}
    (isFound : Json.lookup? name members = some found)
    (isRead : read found = .ok value) :
    fieldOr name default read members = .ok value := by
  simp [fieldOr, isFound, isRead]

/-- A field of two names that is found under the first and read back. -/
theorem fieldOrUnder_of_lookup?
    {found : Json}
    {value : α}
    (isFound : Json.lookup? name members = some found)
    (isRead : read found = .ok value) :
    fieldOrUnder name otherName read members = .ok value := by
  simp [fieldOrUnder, isFound, isRead]

/-- An optional field whose value, if there is one, is found and read back. -/
theorem optionalField_of_lookup?
    (value : Option α)
    (write : α → Json)
    (isFound : Json.lookup? name members = value.map write)
    (isRead : ∀ value, nullable read (write value) = .ok (some value)) :
    optionalField name read members = .ok value := by
  cases value with
  | none =>
      have absent : Json.lookup? name members = none := isFound
      simp [optionalField, fieldOr, absent]
  | some value => exact fieldOr_of_lookup? isFound (isRead value)

end Schema
end Fulfilment
