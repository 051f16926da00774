import Fulfilment.Proofs.Publish.Sending
import Fulfilment.Proofs.Store.Rows
import Fulfilment.Workflow

/-!
# Plans

What an attempt at an order is going to do is settled by the tables that it finds and by what it
is made with: a plan is a function of these alone.  Processing an order carries out its plan, and
nothing is published before all of the plan's rows are written.
-/

namespace Fulfilment
namespace Workflow

/-- What an attempt at an order is made with: the order's event, the settings, the time, the
publisher's topic and routing key, and the identifiers that a shipment and its event would get. -/
structure Task where
  envelope : Envelope OrderCompleted
  settings : Settings
  clock : Moment
  topic : String
  routingKey : String
  shippingId : Uuid
  eventId : Uuid
deriving DecidableEq

namespace Task

/-- The shipment that is to be stored. -/
def draft (task : Task) : ShipmentDraft where
  orderId := some task.envelope.payload.orderId
  userId := some task.envelope.payload.userId
  address := warehouse
  shippingMethod := task.settings.shippingMethod
  carrier := task.settings.carrier
  createdAt := some task.clock.wall

/-- The row of the shipment, if the settings give all of its parts. -/
def shipment (task : Task) : Except StoreError Shipment :=
  Tables.completeShipment task.shippingId task.draft

/-- Store the row of the shipment. -/
def place
    (task : Task)
    (tables : Tables) : Except StoreError (Shipment × Tables) := do
  let shipment ← task.shipment
  let next ← tables.insertShipment shipment
  return (shipment, next)

/-- The ledger entry, if the event has an identifier. -/
def ledgerRow? (task : Task) : Option LedgerEntry :=
  task.envelope.eventId.map fun eventId => ⟨eventId, task.envelope.eventName, task.clock.wall⟩

/-- The event was already acted upon. -/
def IsKnown
    (task : Task)
    (tables : Tables) : Prop :=
  ∃ eventId ∈ task.envelope.eventId, tables.Knows eventId

/-- Enter the event into the ledger, if it has an identifier. -/
def enter
    (task : Task)
    (tables : Tables) : Except StoreError Tables :=
  match task.ledgerRow? with
  | none => .ok tables
  | some entry => tables.insertEntry entry

/-- The event about a shipment, if it fits into an envelope. -/
def outbound
    (task : Task)
    (shipment : Shipment)
    (sequence : Int) : Schema.Reading (Envelope ShippingCreated) :=
  (outboundParts task.settings.serviceName sequence).map fun parts =>
    shippingCreated task.envelope shipment parts.1 task.eventId parts.2

/-- The message with which an event about a shipment is published. -/
def message
    (task : Task)
    (created : Envelope ShippingCreated) : Message :=
  Publish.message task.topic task.routingKey created (Event.shippingCreated created).encode

end Task

/-- What is going to be done about an order, with the tables as they will be. -/
inductive Plan where
  /-- Nothing, since the event was already acted upon. -/
  | duplicate
  /-- The event is entered into the ledger, since the order has a shipment. -/
  | fulfilled (shipment : Shipment) (tables : Tables)
  /-- A shipment is created and announced. -/
  | created (shipment : Shipment) (sequence : Int) (event : Envelope ShippingCreated)
      (tables : Tables)

/-- The result of an attempt that carries out a plan. -/
def Plan.result
    (plan : Plan)
    (eventId : Option Uuid) : Result :=
  match plan with
  | .duplicate => { outcome := .duplicate, eventId }
  | .fulfilled shipment _ =>
      { outcome := .alreadyFulfilled, eventId, shippingId := some shipment.shippingId }
  | .created shipment sequence _ _ =>
      { outcome := .created
        eventId
        shippingId := some shipment.shippingId
        sequence := some sequence }

/-- A result of the store, whose errors are failures. -/
def stored (result : Except StoreError α) : Except Failure α :=
  match result with
  | .ok value => .ok value
  | .error error => .error (.store error)

/-- A result of a check, whose issues are a failure. -/
def checked (reading : Schema.Reading α) : Except Failure α :=
  match reading with
  | .ok value => .ok value
  | .invalid issues => .error (.validation outboundModel issues)
  | .outOfCalendar => .error .outOfCalendar

/-- A value of the store stays one. -/
@[simp]
theorem stored_ok (value : α) : stored (.ok value) = .ok value := rfl

/-- An error of the store is a failure. -/
@[simp]
theorem stored_error (error : StoreError) :
    stored (.error error : Except StoreError α) = .error (.store error) := rfl

/-- What follows a value goes on with it. -/
@[simp]
theorem ok_bind
    (value : α)
    (next : α → Except Failure β) : (.ok value >>= next) = next value := rfl

/-- Nothing follows a failure. -/
@[simp]
theorem error_bind
    (failure : Failure)
    (next : α → Except Failure β) : (.error failure >>= next) = .error failure := rfl

/-- A composed result is a value only if its parts are. -/
theorem bind_eq_ok
    {first : Except ε α}
    {next : α → Except ε β}
    {result : β}
    (ended : (first >>= next) = .ok result) :
    ∃ value, first = .ok value ∧ next value = .ok result := by
  cases first with
  | ok value => exact ⟨value, rfl, ended⟩
  | error error => cases ended

/-- A composed result is an error only if one of its parts is. -/
theorem bind_eq_error
    {first : Except ε α}
    {next : α → Except ε β}
    {error : ε}
    (ended : (first >>= next) = .error error) :
    first = .error error ∨ ∃ value, first = .ok value ∧ next value = .error error := by
  cases first with
  | ok value => exact .inr ⟨value, rfl, ended⟩
  | error other =>
      cases ended
      exact .inl rfl

/-- Only values of the store stay values. -/
theorem stored_eq_ok
    {result : Except StoreError α}
    {value : α}
    (ended : stored result = .ok value) : result = .ok value := by
  cases result with
  | ok other =>
      cases ended
      rfl
  | error error => cases ended

/-- Only errors of the store become failures. -/
theorem stored_eq_error
    {result : Except StoreError α}
    {failure : Failure}
    (ended : stored result = .error failure) :
    ∃ error, result = .error error ∧ failure = .store error := by
  cases result with
  | ok value => cases ended
  | error error =>
      cases ended
      exact ⟨error, rfl, rfl⟩

/-- What is made of checked parts is checked as they are. -/
theorem checked_map
    (make : α → β)
    (reading : Schema.Reading α) : checked (reading.map make) = (checked reading).map make := by
  cases reading <;> rfl

namespace Task

instance (task : Task) (tables : Tables) : Decidable (task.IsKnown tables) :=
  inferInstanceAs (Decidable (∃ eventId ∈ task.envelope.eventId, tables.Knows eventId))

/-- The plan for an order that has no shipment yet. -/
def creation
    (task : Task)
    (tables : Tables) : Except Failure Plan := do
  let (shipment, tables) ← stored (task.place tables)
  let (sequence, tables) ← stored (tables.allocate task.envelope.resolvedKey)
  let created ← checked (task.outbound shipment sequence)
  let tables ← stored (task.enter tables)
  return .created shipment sequence created tables

/-- The plan for an order. -/
def plan
    (task : Task)
    (tables : Tables) : Except Failure Plan :=
  if task.IsKnown tables then return .duplicate
  else
    match tables.shipmentOfOrder? task.envelope.payload.orderId with
    | some shipment => return .fulfilled shipment (← stored (task.enter tables))
    | none => task.creation tables

end Task
end Workflow
end Fulfilment
