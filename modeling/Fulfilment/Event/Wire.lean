import Fulfilment.Calendar.Text
import Fulfilment.Event.Envelope
import Fulfilment.Json.Tree
import Fulfilment.Text.Utf8

/-!
# Wire form of events

An event is sent as compact JSON with its members in a fixed order.  Absent members are left out.
-/

namespace Fulfilment
namespace Wire

/-- A member that is always there. -/
def member
    (name : String)
    (value : Json) : List (String × Json) :=
  [(name, value)]

/-- A member that is left out when absent. -/
def optionalMember
    (name : String)
    (write : α → Json)
    (value : Option α) : List (String × Json) :=
  value.elim [] fun value => member name (write value)

/-- An identifier. -/
def uuid (uuid : Uuid) : Json :=
  .string uuid.text

/-- A datetime; the offset zero is a letter. -/
def datetime (datetime : DateTime) : Json :=
  .string (String.ofList (datetime.text .letter))

/-- A moment, told in UTC. -/
def moment (moment : Moment) : Json :=
  datetime moment.toDateTime

/-- An address. -/
def address (address : Address) : Json :=
  .object <|
    member "line1" (.string address.line1)
      ++ optionalMember "line2" .string address.line2
      ++ member "city" (.string address.city)
      ++ member "state" (.string address.state)
      ++ member "postalCode" (.string address.postalCode)
      ++ member "country" (.string address.country)

/-- The payload of a completed order. -/
def orderCompleted (payload : OrderCompleted) : Json :=
  .object <|
    member "orderId" (uuid payload.orderId)
      ++ member "userId" (uuid payload.userId)
      ++ member "timestamp" (datetime payload.timestamp)

/-- The payload of a created shipment. -/
def shippingCreated (payload : ShippingCreated) : Json :=
  .object <|
    member "shippingId" (uuid payload.shippingId)
      ++ member "orderId" (uuid payload.orderId)
      ++ member "userId" (uuid payload.userId)
      ++ member "address" (address payload.address)
      ++ member "shippingMethod" (.string payload.shippingMethod)
      ++ member "carrier" (.string payload.carrier)
      ++ member "createdAt" (moment payload.createdAt)

/-- An envelope, given how its payload is written. -/
def envelope
    (writePayload : Payload → Json)
    (envelope : Envelope Payload) : Json :=
  .object <|
    member "eventName" (.string envelope.eventName)
      ++ member "eventVersion" (.integer envelope.eventVersion)
      ++ optionalMember "eventId" uuid envelope.eventId
      ++ optionalMember "correlationId" uuid envelope.correlationId
      ++ optionalMember "causationId" uuid envelope.causationId
      ++ member "producer" (.string envelope.producer)
      ++ member "partitionKey" (.string envelope.partitionKey)
      ++ optionalMember "sequence" (fun number => .integer number.toNat) envelope.sequence
      ++ member "occurredAt" (moment envelope.occurredAt)
      ++ member "schema" (.string envelope.schemaRef)
      ++ member "payload" (writePayload envelope.payload)

/-- An event. -/
def event (event : Event) : Json :=
  match event with
  | .orderCompleted completed => envelope orderCompleted completed
  | .shippingCreated created => envelope shippingCreated created

end Wire

/-- The bytes of an event. -/
def Event.encode (event : Event) : Bytes :=
  Text.encodeChars (Wire.event event).write

end Fulfilment
