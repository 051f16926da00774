import Fulfilment.Calendar.DateTime
import Fulfilment.Text.Blank
import Fulfilment.Uuid

/-!
# Events

An event is an envelope around a payload.  The envelope says what happened, who tells it, when
and in what order; the payload is that of one registered event type.
-/

namespace Fulfilment

/-- A postal address. -/
structure Address where
  line1 : String
  line2 : Option String
  city : String
  state : String
  postalCode : String
  country : String
deriving DecidableEq, Repr

/-- What is told about a completed order. -/
structure OrderCompleted where
  orderId : Uuid
  userId : Uuid
  timestamp : DateTime
deriving DecidableEq, Repr

/-- What is told about a created shipment. -/
structure ShippingCreated where
  shippingId : Uuid
  orderId : Uuid
  userId : Uuid
  address : Address
  shippingMethod : String
  carrier : String
  createdAt : Moment
deriving DecidableEq, Repr

/-- An envelope around a payload. -/
structure Envelope (Payload : Type) where
  eventName : String
  eventVersion : Int
  eventId : Option Uuid
  correlationId : Option Uuid
  causationId : Option Uuid
  producer : String
  partitionKey : String
  sequence : Option UInt64
  occurredAt : Moment
  schemaRef : String
  payload : Payload
deriving DecidableEq, Repr

/-- The partition key of an order's event: its own, or the order's identifier if that is blank. -/
def Envelope.resolvedKey (envelope : Envelope OrderCompleted) : String :=
  if Text.isBlankText envelope.partitionKey then envelope.payload.orderId.text
  else envelope.partitionKey

/-- The event types that have a payload. -/
inductive EventType where
  | orderCompleted
  | shippingCreated
deriving DecidableEq, Repr

namespace EventType

/-- The name of an event type. -/
def name (type : EventType) : String :=
  match type with
  | .orderCompleted => "OrderCompleted"
  | .shippingCreated => "ShippingCreated"

/-- The only version of every event type. -/
def version : Int := 1

/-- The event type registered under a name and version. -/
def registered?
    (name : String)
    (version : Int) : Option EventType :=
  if version ≠ EventType.version then none
  else [orderCompleted, shippingCreated].find? fun type => type.name == name

end EventType

/-- An event of one of the registered types. -/
inductive Event where
  | orderCompleted (envelope : Envelope OrderCompleted)
  | shippingCreated (envelope : Envelope ShippingCreated)
deriving DecidableEq, Repr

/-- The type of an event. -/
def Event.type (event : Event) : EventType :=
  match event with
  | .orderCompleted _ => .orderCompleted
  | .shippingCreated _ => .shippingCreated

end Fulfilment
