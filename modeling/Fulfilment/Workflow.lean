import Fulfilment.Publish.Event

/-!
# Fulfilment of an order

One completed order becomes at most one shipment and one event about it.  Everything that a
delivery writes is one unit of work: shipment, sequence number and ledger entry are committed
together, after the event was acknowledged, or undone together.
-/

namespace Fulfilment
namespace Workflow

open Fulfilment.Action Fulfilment.Change

/-- How a delivery ended. -/
inductive Outcome where
  | shapeMismatch
  | duplicate
  | alreadyFulfilled
  | created
deriving DecidableEq, Repr

/-- The name of an outcome. -/
def Outcome.name (outcome : Outcome) : String :=
  match outcome with
  | .shapeMismatch => "SHAPE_MISMATCH"
  | .duplicate => "DUPLICATE"
  | .alreadyFulfilled => "ALREADY_FULFILLED"
  | .created => "CREATED"

/-- The outcome of a delivery and what it is about. -/
structure Result where
  outcome : Outcome
  eventId : Option Uuid := none
  shippingId : Option Uuid := none
  sequence : Option Int := none
deriving DecidableEq, Repr

/-- The address that every shipment leaves from. -/
def warehouse : Address where
  line1 := "123 Market St"
  line2 := none
  city := "Aarhus"
  state := "DK"
  postalCode := "8000"
  country := "DK"

/-- Where the payload of a created shipment is described. -/
def shippingCreatedSchema : String :=
  "contracts/events/shipping/ShippingCreated.v1.payload.schema.json"

/-- The model that an outbound envelope is checked against. -/
def outboundModel : String := "EventEnvelope[ShippingCreatedPayload]"

/-- Look an event up in the ledger.  A look-up that misses a concurrent commit finds nothing. -/
def isInLedger (eventId : Uuid) : Action Bool := do
  let service ← get
  match service.storeFaults.missedEntries with
  | missed + 1 =>
      set { service with storeFaults := { service.storeFaults with missedEntries := missed } }
      return false
  | 0 => askStore fun tables => Option.isSome <| tables.entry? eventId

/-- Look up the shipment of an order.  A look-up that misses a concurrent commit finds nothing. -/
def findShipment (orderId : Uuid) : Action (Option Shipment) := do
  let service ← get
  match service.storeFaults.missedOrders with
  | missed + 1 =>
      set { service with storeFaults := { service.storeFaults with missedOrders := missed } }
      return none
  | 0 => askStore fun tables => tables.shipmentOfOrder? orderId

/-- Store a new shipment for an order. -/
def createShipment (order : OrderCompleted) : Action Shipment := do
  let service ← get
  match service.storeFaults.creation with
  | some failure => fail failure
  | none =>
      let shippingId ← newIdentifier
      inStore fun store => store.createShipment shippingId {
        orderId := some order.orderId
        userId := some order.userId
        address := warehouse
        shippingMethod := service.settings.shippingMethod
        carrier := service.settings.carrier
        createdAt := some service.clock.wall }

/-- Take the next sequence number of a partition key. -/
def nextSequence (key : String) : Action Int := do
  let sequence ← inStore fun store => store.allocate key
  tell .sequences .debug s!"Allocated sequence {sequence} for partition '{key}'"
  return sequence

/-- The producer and the sequence number of an outbound envelope, if they fit into one. -/
def outboundParts
    (producer : Option String)
    (sequence : Int) : Schema.Reading (String × UInt64) :=
  Prod.mk
    <$> (Schema.Reading.ofOption .stringType producer).under "producer"
    <*> (Schema.word sequence).under "sequence"

/-- The checked parts of an outbound envelope. -/
def checkOutbound (parts : Schema.Reading α) : Action α :=
  match parts with
  | .ok value => return value
  | .invalid issues => fail (.validation outboundModel issues)
  | .outOfCalendar => fail .outOfCalendar

/-- The event about a created shipment. -/
def shippingCreated
    (inbound : Envelope OrderCompleted)
    (shipment : Shipment)
    (producer : String)
    (eventId : Uuid)
    (sequence : UInt64) : Envelope ShippingCreated where
  eventName := EventType.shippingCreated.name
  eventVersion := EventType.version
  eventId := some eventId
  correlationId := inbound.correlationId
  causationId := inbound.eventId
  producer := producer
  partitionKey := inbound.resolvedKey
  sequence := some sequence
  occurredAt := ⟨shipment.createdAt⟩
  schemaRef := shippingCreatedSchema
  payload := {
    shippingId := shipment.shippingId
    orderId := shipment.orderId
    userId := shipment.userId
    address := shipment.address
    shippingMethod := shipment.shippingMethod
    carrier := shipment.carrier
    createdAt := ⟨shipment.createdAt⟩ }

/-- Enter an event into the ledger, if it has an identifier. -/
def markProcessed (envelope : Envelope OrderCompleted) : Action Unit :=
  match envelope.eventId with
  | none => return
  | some eventId => do
      let service ← get
      let _ ← inStore fun store => store.mark {
        eventId := some eventId
        eventName := some envelope.eventName
        processedAt := some service.clock.wall }

/-- Fulfil an order that has no shipment yet. -/
def fulfil (envelope : Envelope OrderCompleted) : Action Result := do
  let shipment ← createShipment envelope.payload
  let sequence ← nextSequence envelope.resolvedKey
  let eventId ← newIdentifier
  let serviceName := (← get).settings.serviceName
  let (producer, number) ← checkOutbound (outboundParts serviceName sequence)
  let outbound := shippingCreated envelope shipment producer eventId number
  markProcessed envelope
  Publish.event (.shippingCreated outbound)
  return {
    outcome := .created
    eventId := envelope.eventId
    shippingId := some shipment.shippingId
    sequence := some sequence }

/-- Process an order unless its event was already acted upon or it has a shipment. -/
def process (envelope : Envelope OrderCompleted) : Action Result := do
  let known ← match envelope.eventId with
    | none => pure false
    | some eventId => isInLedger eventId
  if known then return { outcome := .duplicate, eventId := envelope.eventId }
  match ← findShipment envelope.payload.orderId with
  | some shipment =>
      markProcessed envelope
      return {
        outcome := .alreadyFulfilled
        eventId := envelope.eventId
        shippingId := some shipment.shippingId }
  | none => fulfil envelope

/-- Commit what the session has written. -/
def commit : Action Unit := do
  let service ← get
  let faults := service.storeFaults.commits
  set { service with storeFaults := { service.storeFaults with commits := faults.tail } }
  match faults.head?.join with
  | some failure => fail failure
  | none => inStore Store.commit

/-- Undo what the session has not committed. -/
def rollback : Action Unit :=
  modify fun service => { service with store := service.store.rollback }

/-- Process an order and commit, or undo everything. -/
def unitOfWork (envelope : Envelope OrderCompleted) : Action Result := do
  let attempted ← attempt do
    let result ← process envelope
    commit
    return result
  rollback
  let result ← resume attempted
  let identifier := Publish.identifierText result.eventId
  tell .workflow .info
    s!"Event {identifier} for order {envelope.payload.orderId.text}: {result.outcome.name}"
  return result

/-- Tell that an attempt met a conflict and is made again. -/
def tellConflict
    (envelope : Envelope OrderCompleted)
    (attempt : Nat) : Action Unit :=
  let identifier := Publish.identifierText envelope.eventId
  tell .workflow .warning
    (s!"Conflict while processing event {identifier} for order "
      ++ s!"{envelope.payload.orderId.text}, retrying (attempt {attempt} failed)")

/-- Carry out the unit of work, the attempt of the given number, and again after a conflict as
often as retries are left. -/
def attempts
    (envelope : Envelope OrderCompleted) : Nat → Nat → Action Result
  | 0, _ => unitOfWork envelope
  | retries + 1, number => do
      match ← attempt (unitOfWork envelope) with
      | .ok result => return result
      | .error failure =>
          if failure.isConflict then
            tellConflict envelope number
            attempts envelope retries (number + 1)
          else fail failure

/-- Handle the body of one delivery, with so many retries after conflicts. -/
def handle
    (retries : Int)
    (body : Option Bytes) : Action Result :=
  match Event.decodeOrderCompleted body with
  | .ok envelope => attempts envelope retries.toNat 1
  | .error (.shapeMismatch name version) => do
      tell .workflow .info s!"Ignoring message with unexpected shape {name} v{version}"
      return { outcome := .shapeMismatch }
  | .error error => fail error.toFailure

end Workflow
end Fulfilment
