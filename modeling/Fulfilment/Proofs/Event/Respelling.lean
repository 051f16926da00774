import Fulfilment.Proofs.Calendar.Instant
import Fulfilment.Proofs.Event.Header

/-!
# Instants in bodies

A body tells its moments by datetimes in spellings and offsets of their own: as text, as a Unix
time, with an offset or without.  What is read is the same instant told by a clock of UTC.  So two
bodies that differ only in how they spell the instant at which the event occurred are read alike.
-/

namespace Fulfilment

namespace Schema

/-- A value is a datetime whose moment is this one. -/
def TellsMoment
    (told : Json)
    (moment : Moment) : Prop :=
  ∃ given, datetime told = .ok given ∧ given.moment? = some moment

/-- Two values are datetimes of one instant. -/
def TellsSame (told other : Json) : Prop :=
  ∃ given otherGiven, datetime told = .ok given ∧ datetime other = .ok otherGiven
    ∧ given.instant = otherGiven.instant

/-- The same members in the same order, but for the spellings of the instants under a name. -/
def Respelled (name : String) : Members → Members → Prop :=
  List.Forall₂ fun member other =>
    member = other ∨ member.1 = name ∧ other.1 = name ∧ TellsSame member.2 other.2

/-- A day late in February and one in March, in two spellings of one instant. -/
example :
    Respelled "occurredAt"
      [("occurredAt", .string "2024-02-29T23:30:00-01:30"), ("producer", .string "p")]
      [("occurredAt", .string "2024-03-01 01:00Z"), ("producer", .string "p")] := by
  refine .cons (.inr ⟨rfl, rfl, _, _, rfl, rfl, ?_⟩) (.cons (.inl rfl) .nil)
  decide

/-- Datetimes of one instant are read alike, also if the calendar does not have it. -/
theorem TellsSame.moment_eq
    {told other : Json}
    (same : TellsSame told other) : moment told = moment other := by
  obtain ⟨given, otherGiven, isGiven, isOther, instants⟩ := same
  rw [moment, moment, isGiven, isOther]
  simp only [Reading.andThen, DateTime.moment?_of_instant_eq instants]

section Members

variable {name : String} {members others : Members}

theorem lookup?_cons
    (key : String)
    (member : String × Json)
    (members : Members) :
    Json.lookup? key (member :: members) =
      (Json.lookup? key members).or (if member.1 = key then some member.2 else none) := by
  rw [← lookup?_member]
  exact lookup?_append key [member] members

/-- Under every name the same is found, or under the one name the same instant. -/
theorem Respelled.lookup?_rel
    (respelled : Respelled name members others)
    (key : String) :
    Option.Rel (fun told other => told = other ∨ key = name ∧ TellsSame told other)
      (Json.lookup? key members) (Json.lookup? key others) := by
  induction respelled with
  | nil => exact .none
  | @cons member other members others alike _ inductionHypothesis =>
      rw [lookup?_cons, lookup?_cons]
      generalize Json.lookup? key members = found at inductionHypothesis ⊢
      generalize Json.lookup? key others = otherFound at inductionHypothesis ⊢
      cases inductionHypothesis with
      | some later => exact .some later
      | none =>
          simp only [Option.none_or]
          rcases alike with rfl | ⟨named, otherNamed, same⟩
          · split
            · exact .some (.inl rfl)
            · exact .none
          · rw [named, otherNamed]
            split
            · next isKey => exact .some (.inr ⟨isKey.symm, same⟩)
            · exact .none

theorem Respelled.lookup?_eq
    (respelled : Respelled name members others)
    {key : String}
    (other : key ≠ name) : Json.lookup? key members = Json.lookup? key others := by
  have found := respelled.lookup?_rel key
  generalize Json.lookup? key members = told at found ⊢
  generalize Json.lookup? key others = otherTold at found ⊢
  cases found with
  | none => rfl
  | some alike =>
      rcases alike with rfl | ⟨isName, -⟩
      · rfl
      · exact absurd isName other

theorem Respelled.field_moment_eq (respelled : Respelled name members others) :
    field name moment members = field name moment others := by
  have found := respelled.lookup?_rel name
  unfold field
  generalize Json.lookup? name members = told at found ⊢
  generalize Json.lookup? name others = otherTold at found ⊢
  cases found with
  | none => rfl
  | some alike =>
      rcases alike with rfl | ⟨-, same⟩
      · rfl
      · simp only [same.moment_eq]

end Members

/-- Members that differ only in how they spell the instant of an event are one event. -/
theorem Respelled.envelope_eq
    {members others : Members}
    (respelled : Respelled "occurredAt" members others)
    (readPayload : Json → Reading Payload) :
    envelope readPayload (.object members) = envelope readPayload (.object others) := by
  have same (key : String) (other : key ≠ "occurredAt") :
      Json.lookup? key members = Json.lookup? key others := respelled.lookup?_eq other
  simp only [envelope, object, respelled.field_moment_eq]
  simp only [field, fieldOr, fieldOrUnder, optionalField, same "eventName" (by decide),
    same "eventVersion" (by decide), same "eventId" (by decide), same "correlationId" (by decide),
    same "causationId" (by decide), same "producer" (by decide), same "partitionKey" (by decide),
    same "sequence" (by decide), same "schema" (by decide), same "schemaRef" (by decide),
    same "payload" (by decide)]

theorem Respelled.header_eq
    {members others : Members}
    (respelled : Respelled "occurredAt" members others) :
    header (.object members) = header (.object others) := by
  have sameName : Json.lookup? "eventName" members = Json.lookup? "eventName" others :=
    respelled.lookup?_eq (by decide)
  have sameVersion : Json.lookup? "eventVersion" members = Json.lookup? "eventVersion" others :=
    respelled.lookup?_eq (by decide)
  simp only [header, object, field, sameName, sameVersion]

theorem Respelled.event_eq
    {members others : Members}
    (respelled : Respelled "occurredAt" members others)
    (type : EventType) :
    event type (.object members) = event type (.object others) := by
  cases type <;> simp only [event, respelled.envelope_eq]

/-! ## The moments of an event -/

theorem member?_of_field
    {name : String}
    {read : Json → Reading α}
    {members : Members}
    {value : α}
    (accepted : field name read members = .ok value) :
    ∃ told, member? name (.object members) = some told ∧ read told = .ok value :=
  field_eq_ok_iff.mp accepted

/-- The payload of an envelope that was read stands in its members. -/
theorem payload_of_envelope
    {readPayload : Json → Reading Payload}
    {members : Members}
    {read : Envelope Payload}
    (accepted : envelope readPayload (.object members) = .ok read) :
    field "payload" readPayload members = .ok read.payload := by
  simp only [envelope, object, Reading.seq_eq_ok_iff, Reading.map_eq_ok_iff] at accepted
  obtain ⟨_, payload, ⟨_, _, ⟨_, _, ⟨_, _, ⟨_, _, ⟨_, _, ⟨_, _, ⟨_, _, ⟨_, _, ⟨_, _, ⟨_, -, rfl⟩, -,
    rfl⟩, -, rfl⟩, -, rfl⟩, -, rfl⟩, -, rfl⟩, -, rfl⟩, -, rfl⟩, -, rfl⟩, -, rfl⟩, whole, rfl⟩ :=
    accepted
  exact whole

/-- The moment at which a shipment was created stands in the members of its payload. -/
theorem createdAt_of_shippingCreated
    {value : Json}
    {read : ShippingCreated}
    (accepted : shippingCreated value = .ok read) :
    ∃ told, member? "createdAt" value = some told ∧ moment told = .ok read.createdAt := by
  cases value with
  | scalar _ => cases accepted
  | array _ => cases accepted
  | object members =>
      simp only [shippingCreated, object, Reading.seq_eq_ok_iff, Reading.map_eq_ok_iff] at accepted
      obtain ⟨_, createdAt, ⟨_, _, ⟨_, _, ⟨_, _, ⟨_, _, ⟨_, _, ⟨_, -, rfl⟩, -, rfl⟩, -, rfl⟩, -, rfl⟩,
        -, rfl⟩, -, rfl⟩, dated, rfl⟩ := accepted
      exact member?_of_field dated

end Schema

/-- The moments that an event tells. -/
def Event.moments (event : Event) : List Moment :=
  match event with
  | .orderCompleted envelope => [envelope.occurredAt]
  | .shippingCreated envelope => [envelope.occurredAt, envelope.payload.createdAt]

namespace Schema

/-- The moments of an event that was read are those of the values that are read as moments. -/
theorem tellsMoments_of_event
    {type : EventType}
    {members : Members}
    {read : Event}
    (accepted : event type (.object members) = .ok read) :
    List.Forall₂ TellsMoment (momentsTold type (.object members)) read.moments := by
  cases type with
  | orderCompleted =>
      obtain ⟨completed, whole, rfl⟩ := Reading.map_eq_ok_iff.mp accepted
      obtain ⟨occurred, isOccurred, occurredAt⟩ := member?_of_field (members_of_envelope whole).2
      simp only [momentsTold, isOccurred, Option.toList_some, Event.moments]
      exact .cons (moment_eq_ok_iff.mp occurredAt) .nil
  | shippingCreated =>
      obtain ⟨created, whole, rfl⟩ := Reading.map_eq_ok_iff.mp accepted
      obtain ⟨occurred, isOccurred, occurredAt⟩ := member?_of_field (members_of_envelope whole).2
      obtain ⟨payload, isPayload, isRead⟩ := member?_of_field (payload_of_envelope whole)
      obtain ⟨told, isTold, createdAt⟩ := createdAt_of_shippingCreated isRead
      simp only [momentsTold, isOccurred, isPayload, Option.bind_some, isTold, Option.toList_some,
        Event.moments, List.singleton_append]
      exact .cons (moment_eq_ok_iff.mp occurredAt) (.cons (moment_eq_ok_iff.mp createdAt) .nil)

end Schema

namespace Event

/-- Two bodies are JSON objects that differ only in how they spell the instant of the event. -/
def Respells (body other : Option Bytes) : Prop :=
  ∃ members others, Schema.body body = .ok (.object members)
    ∧ Schema.body other = .ok (.object others) ∧ Schema.Respelled "occurredAt" members others

/-- The spelling of the instant of an event changes nothing, whatever else is right or wrong with
the body. -/
theorem Respells.decode_eq
    {body other : Option Bytes}
    (respells : Respells body other)
    (name : String)
    (version : Int) : decode body name version = decode other name version := by
  obtain ⟨members, others, isJson, isOther, respelled⟩ := respells
  simp only [decode, isJson, isOther, ofJson, respelled.header_eq, respelled.event_eq]

theorem tellsMoments_of_decode
    {body : Option Bytes}
    {name : String}
    {version : Int}
    {event : Event}
    (decoded : decode body name version = .ok event) :
    ∃ value, Schema.body body = .ok value
      ∧ List.Forall₂ Schema.TellsMoment (Schema.momentsTold event.type value) event.moments := by
  have decision := decision_decode body name version
  rw [decoded] at decision
  cases decision with
  | read carried registered isJson accepted =>
      exact ⟨_, isJson, Schema.tellsMoments_of_event accepted⟩

/-- What telling datetimes in UTC does to the instants that they tell. -/
structure KeepsInstants : Prop where
  /-- Day numbers count the days of the calendar from its first, each found from the one before. -/
  counted : ∀ days date, Date.daysOn? days = some date ↔ date.dayNumber = days
  /-- UTC tells the very instant, however far the wall clock is ahead of it. -/
  exact : ∀ (clock : WallClock) ahead utc,
    clock.utc? ahead = some utc ↔ utc.instant 0 = clock.instant ahead
  /-- UTC does not tell an instant exactly if it lies before the calendar or behind it. -/
  fails : ∀ (clock : WallClock) ahead,
    clock.utc? ahead = none ↔
      clock.instant ahead < WallClock.first.instant 0
        ∨ WallClock.last.instant 0 < clock.instant ahead
  idempotent : ∀ (clock : WallClock) ahead utc,
    clock.utc? ahead = some utc → utc.utc? 0 = some utc
  /-- Earlier instants are told by wall clocks with earlier fields, the year first. -/
  monotone : ∀ (clock other : WallClock) ahead otherAhead utc otherUtc,
    clock.utc? ahead = some utc → other.utc? otherAhead = some otherUtc →
      (clock.instant ahead < other.instant otherAhead ↔ utc.fields < otherUtc.fields)
  /-- A datetime is as far ahead of UTC as its offset, and its moment is what UTC tells. -/
  datetimes : ∀ datetime : DateTime,
    datetime.instant = datetime.wall.instant datetime.ahead
      ∧ datetime.moment? = (datetime.wall.utc? datetime.ahead).map Moment.mk
  /-- A datetime without an offset is in UTC. -/
  naive : ∀ wall, (DateTime.mk wall none).moment? = some ⟨wall⟩
  /-- A moment is told with the offset zero, and is the moment of what is told. -/
  inUtc : ∀ moment : Moment,
    moment.toDateTime.offset = some .utc ∧ moment.toDateTime.moment? = some moment
  /-- The moments of an event are those of the datetimes in its body. -/
  told : ∀ body name version event, decode body name version = .ok event →
    ∃ value, Schema.body body = .ok value
      ∧ List.Forall₂ Schema.TellsMoment (Schema.momentsTold event.type value) event.moments
  /-- Datetimes of one instant are written as spellings of it, whatever their offsets. -/
  spelled : ∀ datetime other : DateTime, datetime.instant = other.instant →
    Schema.TellsSame (Wire.datetime datetime) (Wire.datetime other)
  /-- Bodies that differ only in how they spell the instant of the event are read alike. -/
  alike : ∀ body other, Respells body other →
    ∀ name version, decode body name version = decode other name version

/-- Telling datetimes in UTC keeps the instants, everywhere in the calendar. -/
theorem keepsInstants : KeepsInstants where
  counted _ _ := Date.daysOn?_eq_some_iff
  exact _ _ _ := WallClock.utc?_eq_some_iff
  fails _ _ := WallClock.utc?_eq_none_iff
  idempotent _ _ utc _ := WallClock.utc?_zero utc
  monotone _ _ _ _ _ _ := WallClock.instant_lt_iff_of_utc?
  datetimes datetime := ⟨rfl, datetime.moment?_eq⟩
  naive wall := by
    rw [DateTime.moment?_eq]
    exact congrArg (Option.map Moment.mk) (WallClock.utc?_zero wall)
  inUtc moment := ⟨rfl, moment.moment?_toDateTime⟩
  told _ _ _ _ := tellsMoments_of_decode
  spelled datetime other same :=
    ⟨datetime, other, Schema.datetime_datetime datetime, Schema.datetime_datetime other, same⟩
  alike _ _ respells := respells.decode_eq

end Event

end Fulfilment
