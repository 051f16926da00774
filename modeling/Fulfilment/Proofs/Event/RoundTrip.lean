import Fulfilment.Event.Decode
import Fulfilment.Proofs.Json.Tree
import Fulfilment.Proofs.Schema.Written
import Fulfilment.Proofs.Text.Utf8

/-!
# Reading written events

The bytes of an event decode to that event: every text character for character, every optional
member present or absent as it was, every datetime with its wall clock and offset.
-/

namespace Fulfilment

namespace Json

/-- A number of a word has few digits, so it is read back. -/
@[simp]
theorem Faithful.word
    (depth : Nat)
    (number : UInt64) :
    Faithful depth (.integer number.toNat) := by
  apply Faithful.integer
  have bound := number.toNat_lt
  have short : (Number.decimalDigits number.toNat).length ≤ 20 :=
    (Nat.length_toDigits_le_iff (by decide) (by decide)).mpr (by omega)
  rw [Int.natAbs_natCast]
  exact Nat.le_trans short (by decide)

/-- Members in front of others. -/
@[simp]
theorem faithfulMembers_append
    {depth : Nat}
    {first second : List (String × Json)} :
    FaithfulMembers depth (first ++ second) ↔
      FaithfulMembers depth first ∧ FaithfulMembers depth second := by
  simp only [FaithfulMembers, List.forall_mem_append]

/-- A member that is always there. -/
@[simp]
theorem faithfulMembers_member
    {depth : Nat}
    {name : String}
    {value : Json} :
    FaithfulMembers depth (Wire.member name value) ↔ Faithful depth value := by
  simp [FaithfulMembers, Wire.member]

/-- A member that may be absent. -/
@[simp]
theorem faithfulMembers_optionalMember
    {depth : Nat}
    {name : String}
    {write : α → Json}
    {value : Option α} :
    FaithfulMembers depth (Wire.optionalMember name write value) ↔
      ∀ content, value = some content → Faithful depth (write content) := by
  cases value with
  | none => simp [Wire.optionalMember, FaithfulMembers]
  | some content => simp [Wire.optionalMember]

/-- A written identifier is read back. -/
@[simp]
theorem Faithful.uuid
    (depth : Nat)
    (identifier : Uuid) :
    Faithful depth (Wire.uuid identifier) :=
  Faithful.string depth identifier.text

/-- A written datetime is read back. -/
@[simp]
theorem Faithful.datetime
    (depth : Nat)
    (value : DateTime) :
    Faithful depth (Wire.datetime value) :=
  Faithful.string depth _

/-- A written moment is read back. -/
@[simp]
theorem Faithful.moment
    (depth : Nat)
    (value : Moment) :
    Faithful depth (Wire.moment value) :=
  Faithful.datetime depth value.toDateTime

/-- A written address is read back. -/
@[simp]
theorem Faithful.address
    (depth : Nat)
    (value : Address) :
    Faithful (depth + 1) (Wire.address value) := by
  apply Faithful.object
  simp

/-- The written payload of a completed order is read back. -/
theorem Faithful.orderCompleted (payload : OrderCompleted) :
    Faithful 2 (Wire.orderCompleted payload) := by
  apply Faithful.object
  simp

/-- The written payload of a created shipment is read back. -/
theorem Faithful.shippingCreated (payload : ShippingCreated) :
    Faithful 2 (Wire.shippingCreated payload) := by
  apply Faithful.object
  simp

/-- A written envelope of version one is read as the members that were written. -/
theorem read?_write_envelope
    {writePayload : Payload → Json}
    {envelope : Envelope Payload}
    (version : envelope.eventVersion = EventType.version)
    (faithful : Faithful 2 (writePayload envelope.payload)) :
    read? (Wire.envelope writePayload envelope).write =
      some (Wire.envelope writePayload envelope) := by
  have versionFaithful : Faithful 2 (.integer envelope.eventVersion) := by
    rw [version]
    exact Faithful.integer 2 (by decide)
  unfold Wire.envelope
  refine @read?_write_object 2 _ ?_ (by decide)
  simp [faithful, versionFaithful]

end Json

namespace Schema

/-- A written address is read as that address. -/
@[simp]
theorem address_address (value : Address) :
    address (Wire.address value) = .ok value := by
  simp only [Wire.address, address, object]
  rw [field_of_lookup? (by simp) (string_string value.line1),
    optionalField_of_lookup? value.line2 Json.string (by simp) (fun _ => rfl),
    field_of_lookup? (by simp) (string_string value.city),
    field_of_lookup? (by simp) (string_string value.state),
    field_of_lookup? (by simp) (string_string value.postalCode),
    field_of_lookup? (by simp) (string_string value.country)]
  simp

/-- A written payload of a completed order is read as that payload. -/
theorem orderCompleted_orderCompleted (payload : OrderCompleted) :
    orderCompleted (Wire.orderCompleted payload) = .ok payload := by
  simp only [Wire.orderCompleted, orderCompleted, object]
  rw [field_of_lookup? (by simp) (uuid_uuid payload.orderId),
    field_of_lookup? (by simp) (uuid_uuid payload.userId),
    field_of_lookup? (by simp) (datetime_datetime payload.timestamp)]
  simp

/-- A written payload of a created shipment is read as that payload. -/
theorem shippingCreated_shippingCreated (payload : ShippingCreated) :
    shippingCreated (Wire.shippingCreated payload) = .ok payload := by
  simp only [Wire.shippingCreated, shippingCreated, object]
  rw [field_of_lookup? (by simp) (uuid_uuid payload.shippingId),
    field_of_lookup? (by simp) (uuid_uuid payload.orderId),
    field_of_lookup? (by simp) (uuid_uuid payload.userId),
    field_of_lookup? (by simp) (address_address payload.address),
    field_of_lookup? (by simp) (string_string payload.shippingMethod),
    field_of_lookup? (by simp) (string_string payload.carrier),
    field_of_lookup? (by simp) (moment_moment payload.createdAt)]
  simp

/-- A written envelope is read as that envelope if its payload is. -/
theorem envelope_envelope
    {readPayload : Json → Reading Payload}
    {writePayload : Payload → Json}
    {value : Envelope Payload}
    (positive : 0 < value.eventVersion)
    (payload : readPayload (writePayload value.payload) = .ok value.payload) :
    envelope readPayload (Wire.envelope writePayload value) = .ok value := by
  simp only [Wire.envelope, envelope, object]
  rw [field_of_lookup? (by simp) (string_string value.eventName),
    field_of_lookup? (by simp) (positiveInteger_integer positive),
    optionalField_of_lookup? value.eventId Wire.uuid (by simp) nullable_uuid,
    optionalField_of_lookup? value.correlationId Wire.uuid (by simp) nullable_uuid,
    optionalField_of_lookup? value.causationId Wire.uuid (by simp) nullable_uuid,
    field_of_lookup? (by simp) (string_string value.producer),
    fieldOr_of_lookup? (by simp) (string_string value.partitionKey),
    optionalField_of_lookup? value.sequence (fun number => .integer number.toNat) (by simp)
      nullable_unsigned,
    field_of_lookup? (by simp) (moment_moment value.occurredAt),
    fieldOrUnder_of_lookup? (by simp) (string_string value.schemaRef),
    field_of_lookup? (by simp) payload]
  simp

/-- The name and version of a written envelope are read as they are. -/
theorem header_envelope
    (writePayload : Payload → Json)
    (value : Envelope Payload) :
    header (Wire.envelope writePayload value) = .ok (value.eventName, value.eventVersion) := by
  simp only [Wire.envelope, header, object]
  rw [field_of_lookup? (by simp) (string_string value.eventName),
    field_of_lookup? (by simp) (integer_integer value.eventVersion)]
  simp

end Schema

namespace Event

/-- The name of an event. -/
def name (event : Event) : String :=
  match event with
  | .orderCompleted envelope => envelope.eventName
  | .shippingCreated envelope => envelope.eventName

/-- The version of an event. -/
def version (event : Event) : Int :=
  match event with
  | .orderCompleted envelope => envelope.eventVersion
  | .shippingCreated envelope => envelope.eventVersion

/-- An event whose envelope has the name and version of its type. -/
def IsTyped (event : Event) : Prop :=
  event.name = event.type.name ∧ event.version = EventType.version

/-- The type of every event is registered under its name. -/
@[simp]
theorem registered?_name (type : EventType) :
    EventType.registered? type.name EventType.version = some type := by
  cases type <;> rfl

/-- The JSON value of a written event. -/
theorem body_encode
    {event : Event}
    (typed : event.IsTyped) :
    Schema.body (some event.encode) = .ok (Wire.event event) := by
  have read : Json.read? (Wire.event event).write = some (Wire.event event) := by
    cases event with
    | orderCompleted envelope =>
        exact Json.read?_write_envelope typed.2 (.orderCompleted envelope.payload)
    | shippingCreated envelope =>
        exact Json.read?_write_envelope typed.2 (.shippingCreated envelope.payload)
  simp [Schema.body, encode, read, Schema.Reading.ofOption]

/-- The header of a written event. -/
theorem header_event (event : Event) :
    Schema.header (Wire.event event) = .ok (event.name, event.version) := by
  cases event with
  | orderCompleted envelope => exact Schema.header_envelope _ envelope
  | shippingCreated envelope => exact Schema.header_envelope _ envelope

/-- A written event is read as that event. -/
theorem event_event
    {event : Event}
    (typed : event.IsTyped) :
    Schema.event event.type (Wire.event event) = .ok event := by
  have positive : 0 < event.version := by
    rw [typed.2]
    decide
  cases event with
  | orderCompleted envelope =>
      have read := Schema.envelope_envelope positive
        (Schema.orderCompleted_orderCompleted envelope.payload)
      simp [Schema.event, type, Wire.event, read, Schema.Reading.map]
  | shippingCreated envelope =>
      have read := Schema.envelope_envelope positive
        (Schema.shippingCreated_shippingCreated envelope.payload)
      simp [Schema.event, type, Wire.event, read, Schema.Reading.map]

/-- The bytes of an event decode to that event. -/
theorem decode_encode
    {event : Event}
    (typed : event.IsTyped) :
    decode (some event.encode) event.type.name EventType.version = .ok event := by
  simp [decode, body_encode typed, ofJson, header_event, typed.1, typed.2, event_event typed]

end Event

end Fulfilment
