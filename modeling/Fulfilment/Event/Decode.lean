import Fulfilment.Event.Wire
import Fulfilment.Schema.Scalar

/-!
# Reading events

The body of an event is read in two passes.  The first reads only the header, the name and the
version, and settles whether the event is of the wanted type.  The second reads the whole
envelope.
-/

namespace Fulfilment
namespace Schema

/-- Read an address. -/
def address : Json → Reading Address :=
  object fun members =>
    Address.mk
      <$> field "line1" string members
      <*> optionalField "line2" string members
      <*> field "city" string members
      <*> field "state" string members
      <*> field "postalCode" string members
      <*> field "country" string members

/-- Read the payload of a completed order. -/
def orderCompleted : Json → Reading OrderCompleted :=
  object fun members =>
    OrderCompleted.mk
      <$> field "orderId" uuid members
      <*> field "userId" uuid members
      <*> field "timestamp" datetime members

/-- Read the payload of a created shipment. -/
def shippingCreated : Json → Reading ShippingCreated :=
  object fun members =>
    ShippingCreated.mk
      <$> field "shippingId" uuid members
      <*> field "orderId" uuid members
      <*> field "userId" uuid members
      <*> field "address" address members
      <*> field "shippingMethod" string members
      <*> field "carrier" string members
      <*> field "createdAt" moment members

/-- Read the name and version of an event. -/
def header : Json → Reading (String × Int) :=
  object fun members =>
    Prod.mk
      <$> field "eventName" string members
      <*> field "eventVersion" integer members

/-- Read an envelope, given how its payload is read. -/
def envelope (readPayload : Json → Reading Payload) : Json → Reading (Envelope Payload) :=
  object fun members =>
    Envelope.mk
      <$> field "eventName" string members
      <*> field "eventVersion" positiveInteger members
      <*> optionalField "eventId" uuid members
      <*> optionalField "correlationId" uuid members
      <*> optionalField "causationId" uuid members
      <*> field "producer" string members
      <*> fieldOr "partitionKey" "" string members
      <*> optionalField "sequence" unsigned members
      <*> field "occurredAt" moment members
      <*> fieldOrUnder "schema" "schemaRef" string members
      <*> field "payload" readPayload members

/-- Read an event of a type. -/
def event
    (type : EventType)
    (value : Json) : Reading Event :=
  match type with
  | .orderCompleted => (envelope orderCompleted value).map .orderCompleted
  | .shippingCreated => (envelope shippingCreated value).map .shippingCreated

/-- The JSON value of a body; no body is not JSON either. -/
def body (body : Option Bytes) : Reading Json :=
  match body with
  | none => .issue .jsonType
  | some bytes => .ofOption .jsonInvalid ((Text.decodeChars? bytes).bind Json.read?)

end Schema

/-- Why a body is no event of the wanted type. -/
inductive DecodeError where
  /-- The header cannot be read. -/
  | malformed (issues : List Schema.Issue)
  /-- The header is not that of the wanted type, or that type is not registered. -/
  | shapeMismatch (name : String) (version : Int)
  /-- The header is right and the rest is not. -/
  | invalid (name : String) (version : Int) (issues : List Schema.Issue)
  /-- A datetime is not in the calendar when told in UTC. -/
  | outOfCalendar
deriving DecidableEq, Repr

namespace Event

/-- Read an event of the wanted type once its body is known to be JSON. -/
def ofJson
    (name : String)
    (version : Int)
    (value : Json) : Except DecodeError Event :=
  match Schema.header value with
  | .invalid issues => .error (.malformed issues)
  | .outOfCalendar => .error .outOfCalendar
  | .ok (givenName, givenVersion) =>
      if givenName = name ∧ givenVersion = version then
        match EventType.registered? name version with
        | none => .error (.shapeMismatch givenName givenVersion)
        | some type =>
            match Schema.event type value with
            | .ok event => .ok event
            | .invalid issues => .error (.invalid givenName givenVersion issues)
            | .outOfCalendar => .error .outOfCalendar
      else .error (.shapeMismatch givenName givenVersion)

/-- The event of the wanted type in a body. -/
def decode
    (body : Option Bytes)
    (name : String)
    (version : Int) : Except DecodeError Event :=
  match Schema.body body with
  | .ok value => ofJson name version value
  | .invalid issues => .error (.malformed issues)
  | .outOfCalendar => .error .outOfCalendar

/-- The completed order in a body. -/
def decodeOrderCompleted (body : Option Bytes) : Except DecodeError (Envelope OrderCompleted) :=
  match decode body EventType.orderCompleted.name EventType.version with
  | .ok (.orderCompleted envelope) => .ok envelope
  | .ok (.shippingCreated envelope) =>
      .error (.shapeMismatch envelope.eventName envelope.eventVersion)
  | .error error => .error error

end Event
end Fulfilment
