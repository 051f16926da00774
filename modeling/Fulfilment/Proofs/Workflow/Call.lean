import Fulfilment.Proofs.Workflow.Attempt

/-!
# What one call does

A call handles the body of one delivery, whatever the broker does meanwhile.  What it does to the
tables and what it sends is settled by the event in the body and by the tables that it finds, up
to the choice between a shipment and a failure.
-/

namespace Fulfilment
namespace Workflow

open Fulfilment.Action Fulfilment.Change Fulfilment.Service

/-- A delivery: its body, the time at which it is handled, and the faults of the next connections
and sends. -/
structure Delivery where
  body : Option Bytes
  now : Moment
  connectFaults : List (Option Failure) := []
  sendFaults : List (Option SendFault) := []

/-- A call as it is seen from outside: the body, the time, the tables that are committed before
and after it, how it ends, and the messages that it sends. -/
structure Call where
  body : Option Bytes
  now : Moment
  before : Tables
  ending : Except Failure Result
  sent : List Message
  after : Tables

namespace Call

/-- The event in the body of a call. -/
def decoded (call : Call) : Except DecodeError (Envelope OrderCompleted) :=
  Event.decodeOrderCompleted call.body

/-- The shipments that the messages of a call announce. -/
def announcements (call : Call) : List (Envelope ShippingCreated) :=
  Message.announcements call.sent

/-- A call ends with an outcome. -/
def EndsWith
    (call : Call)
    (outcome : Outcome) : Prop :=
  ∃ result, call.ending = .ok result ∧ result.outcome = outcome

/-- The event of a call was already acted upon. -/
def IsKnown
    (call : Call)
    (envelope : Envelope OrderCompleted) : Prop :=
  ∃ eventId ∈ envelope.eventId, call.before.Knows eventId

/-- The ledger entry about the event of a call, if the event has an identifier. -/
def ledgerRow?
    (call : Call)
    (envelope : Envelope OrderCompleted) : Option LedgerEntry :=
  envelope.eventId.map fun eventId => ⟨eventId, envelope.eventName, call.now.wall⟩

end Call

/-- The service at the time of a delivery, with the broker's faults to come. -/
def facing
    (service : Service)
    (delivery : Delivery) : Service :=
  { service with
    clock := delivery.now
    broker := { service.broker with
      connectFaults := delivery.connectFaults
      sendFaults := delivery.sendFaults } }

/-- Handle a delivery. -/
def deliver
    (retries : Int)
    (delivery : Delivery)
    (service : Service) : Call × Service :=
  let (ending, after) := (handle retries delivery.body).perform (facing service delivery)
  let call : Call := {
    body := delivery.body
    now := delivery.now
    before := service.store.committed
    ending
    sent := after.broker.sent.drop service.broker.sent.length
    after := after.store.committed }
  (call, after)

/-- The one shipment that is created by a call, and what is told about it. -/
structure CreatesOne
    (call : Call)
    (envelope : Envelope OrderCompleted)
    (result : Result)
    (shipment : Shipment)
    (event : Envelope ShippingCreated) : Prop where
  decoded : call.decoded = .ok envelope
  unknown : ¬ call.IsKnown envelope
  unshipped : ¬ call.before.HasShipment envelope.payload.orderId
  unused : ¬ call.before.Uses shipment.shippingId
  fits : call.before.due envelope.resolvedKey < Tables.greatestCounter
  result : result = {
    outcome := .created
    eventId := envelope.eventId
    shippingId := some shipment.shippingId
    sequence := some (call.before.due envelope.resolvedKey) }
  order : shipment.orderId = envelope.payload.orderId
  /-- The shipment, the number and the ledger entry are all that the tables gain. -/
  tables : call.after =
    ((call.before.withShipment shipment).withTaken envelope.resolvedKey
      (call.before.due envelope.resolvedKey)).withEntry (call.ledgerRow? envelope)
  /-- The last message alone is acknowledged. -/
  announced : ∃ earlier message,
    call.sent = earlier ++ [message]
      ∧ (∀ other ∈ earlier, other.acknowledged = false)
      ∧ message.acknowledged = true
      ∧ message.announcement? = some event
  aboutShipment : event.payload.shippingId = shipment.shippingId
  aboutOrder : event.payload.orderId = envelope.payload.orderId
  partitionKey : event.partitionKey = envelope.resolvedKey
  causation : event.causationId = envelope.eventId
  number : event.number? = some (call.before.due envelope.resolvedKey)

/-- What a call does. -/
inductive Effect (call : Call) : Prop where
  /-- The body is no event, or no sound one. -/
  | undecodable {error : DecodeError}
      (decoded : call.decoded = .error error)
      (other : ∀ name version, error ≠ .shapeMismatch name version)
      (ending : call.ending = .error error.toFailure)
      (kept : call.after = call.before)
      (silent : call.sent = [])
  /-- The body is an event of another shape. -/
  | mismatched {name : String} {version : Int}
      (decoded : call.decoded = .error (.shapeMismatch name version))
      (ending : call.ending = .ok { outcome := .shapeMismatch })
      (kept : call.after = call.before)
      (silent : call.sent = [])
  /-- The event was already acted upon. -/
  | duplicate {envelope : Envelope OrderCompleted}
      (decoded : call.decoded = .ok envelope)
      (known : call.IsKnown envelope)
      (ending : call.ending = .ok { outcome := .duplicate, eventId := envelope.eventId })
      (kept : call.after = call.before)
      (silent : call.sent = [])
  /-- The order has a shipment. -/
  | fulfilled {envelope : Envelope OrderCompleted} {shipment : Shipment}
      (decoded : call.decoded = .ok envelope)
      (unknown : ¬ call.IsKnown envelope)
      (found : call.before.shipmentOfOrder? envelope.payload.orderId = some shipment)
      (ending : call.ending = .ok {
        outcome := .alreadyFulfilled
        eventId := envelope.eventId
        shippingId := some shipment.shippingId })
      (entered : call.after = call.before.withEntry (call.ledgerRow? envelope))
      (silent : call.sent = [])
  /-- No shipment was created and announced.  Something was sent only if the key had a number. -/
  | failed {envelope : Envelope OrderCompleted} {failure : Failure}
      (decoded : call.decoded = .ok envelope)
      (unknown : ¬ call.IsKnown envelope)
      (unshipped : ¬ call.before.HasShipment envelope.payload.orderId)
      (ending : call.ending = .error failure)
      (kept : call.after = call.before)
      (unacknowledged : ∀ message ∈ call.sent, message.acknowledged = false)
      (possible : call.sent ≠ [] →
        0 ≤ call.before.due envelope.resolvedKey
          ∧ call.before.due envelope.resolvedKey < Tables.greatestCounter)
  /-- A shipment was created and announced. -/
  | created {envelope : Envelope OrderCompleted} {result : Result} {shipment : Shipment}
      {event : Envelope ShippingCreated}
      (ending : call.ending = .ok result)
      (creates : CreatesOne call envelope result shipment event)

/-- The service at rest over the tables after a call, with what was sent. -/
structure Ready
    (service : Service)
    (tables : Tables)
    (sent : List Message)
    (after : Service) : Prop where
  rests : after.Rests tables
  sent : after.broker.sent = service.broker.sent ++ sent

/-- A number that is announced is not negative. -/
theorem CreatesOne.nonnegative
    {call : Call}
    {envelope : Envelope OrderCompleted}
    {result : Result}
    {shipment : Shipment}
    {event : Envelope ShippingCreated}
    (creates : CreatesOne call envelope result shipment event) :
    0 ≤ call.before.due envelope.resolvedKey := by
  obtain ⟨number, -, told⟩ := Option.map_eq_some_iff.mp creates.number
  omega

/-- A created shipment is announced by the last message alone. -/
theorem CreatesOne.announcements
    {call : Call}
    {envelope : Envelope OrderCompleted}
    {result : Result}
    {shipment : Shipment}
    {event : Envelope ShippingCreated}
    (creates : CreatesOne call envelope result shipment event) : call.announcements = [event] := by
  obtain ⟨earlier, message, sent, unacknowledged, -, announced⟩ := creates.announced
  rw [Call.announcements, sent, Message.announcements_append,
    Message.announcements_of_unacknowledged unacknowledged]
  simp [Message.announcements, announced]

/-- What settles the event of a call is the effect of the call. -/
theorem effect_of_settled
    {task : Task}
    {body : Option Bytes}
    {tables next : Tables}
    {ending : Except Failure Result}
    {sent : List Message}
    (decoded : Event.decodeOrderCompleted body = .ok task.envelope)
    (settled : Settled task tables ending next sent) :
    Effect ⟨body, task.clock, tables, ending, sent, next⟩ := by
  cases settled with
  | duplicate known => exact .duplicate decoded known rfl rfl rfl
  | fulfilled unknown found => exact .fulfilled decoded unknown found rfl rfl rfl
  | failed failure unknown unshipped unacknowledged possible =>
      exact .failed decoded unknown unshipped rfl rfl unacknowledged possible
  | created earlier unknown creates unacknowledged =>
      obtain ⟨identifier, order, -⟩ := Task.eq_of_shipment_eq_ok creates.complete
      have tells := Task.tells_of_outbound creates.sound
      obtain ⟨unshipped, unused, -, rfl, fits, -, rfl⟩ := creates
      refine .created rfl ⟨decoded, unknown, unshipped, ?_, fits, rfl, order, rfl,
        ⟨earlier, _, rfl, unacknowledged, rfl, tells.announced⟩, tells.aboutShipment,
        tells.aboutOrder.trans order, tells.partitionKey, tells.causation, tells.number⟩
      rw [identifier]
      exact unused

/-- A body that is no completed order leaves the tables and sends nothing. -/
theorem handle_of_error
    {service after : Service}
    {tables : Tables}
    {retries : Int}
    {body : Option Bytes}
    {error : DecodeError}
    {ending : Except Failure Result}
    (rests : service.Rests tables)
    (decoded : Event.decodeOrderCompleted body = .error error)
    (handled : (handle retries body).perform service = (ending, after)) :
    Ready service tables [] after
      ∧ ending =
        match error with
        | .shapeMismatch _ _ => .ok { outcome := .shapeMismatch }
        | error => .error error.toFailure := by
  unfold handle at handled
  cases error with
  | shapeMismatch name version =>
      simp only [decoded, perform_bind, Action.tell, perform_modify, perform_pure] at handled
      cases handled
      exact ⟨⟨⟨rests.store, rests.faults⟩, by simp⟩, rfl⟩
  | malformed issues =>
      simp only [decoded, perform_fail] at handled
      cases handled
      exact ⟨⟨rests, by simp⟩, rfl⟩
  | invalid name version issues =>
      simp only [decoded, perform_fail] at handled
      cases handled
      exact ⟨⟨rests, by simp⟩, rfl⟩
  | outOfCalendar =>
      simp only [decoded, perform_fail] at handled
      cases handled
      exact ⟨⟨rests, by simp⟩, rfl⟩

/-- The body of a completed order is settled by attempts. -/
theorem handle_of_ok
    {service after : Service}
    {tables : Tables}
    {retries : Int}
    {body : Option Bytes}
    {envelope : Envelope OrderCompleted}
    {ending : Except Failure Result}
    (rests : service.Rests tables)
    (decoded : Event.decodeOrderCompleted body = .ok envelope)
    (handled : (handle retries body).perform service = (ending, after)) :
    ∃ next sent, Settled (service.task envelope) tables ending next sent
      ∧ Ready service next sent after := by
  simp only [handle, decoded] at handled
  obtain ⟨next, sent, attempts, continues⟩ := attempts_attempts rests handled
  exact ⟨next, sent, attempts.settled, continues.rests, continues.sent⟩

/-- The call of a delivery that is handled in a service at rest. -/
theorem deliver_eq
    {service after : Service}
    {tables next : Tables}
    {retries : Int}
    {delivery : Delivery}
    {ending : Except Failure Result}
    {sent : List Message}
    (rests : service.Rests tables)
    (handled : (handle retries delivery.body).perform (facing service delivery) = (ending, after))
    (ready : Ready (facing service delivery) next sent after) :
    deliver retries delivery service =
      (⟨delivery.body, delivery.now, tables, ending, sent, next⟩, after) := by
  have added : after.broker.sent.drop service.broker.sent.length = sent := by
    rw [ready.sent]
    exact List.drop_left
  have before : service.store.committed = tables := by
    rw [rests.store]
    rfl
  have committed : after.store.committed = next := by
    rw [ready.rests.store]
    rfl
  simp only [deliver, handled, added, before, committed]

/-- Handling a delivery has the effect that its body and the tables call for. -/
theorem effect_deliver
    {service : Service}
    {tables : Tables}
    (retries : Int)
    (delivery : Delivery)
    (rests : service.Rests tables) :
    Effect (deliver retries delivery service).1
      ∧ (deliver retries delivery service).1.before = tables
      ∧ Ready service (deliver retries delivery service).1.after
        (deliver retries delivery service).1.sent (deliver retries delivery service).2 := by
  have facingRests : (facing service delivery).Rests tables := ⟨rests.store, rests.faults⟩
  cases handled : (handle retries delivery.body).perform (facing service delivery) with
  | mk ending after =>
      cases decoded : Event.decodeOrderCompleted delivery.body with
      | ok envelope =>
          obtain ⟨next, sent, settled, ready⟩ := handle_of_ok facingRests decoded handled
          rw [deliver_eq rests handled ready]
          exact ⟨effect_of_settled decoded settled, rfl, ready.rests, ready.sent⟩
      | error error =>
          obtain ⟨ready, ended⟩ := handle_of_error facingRests decoded handled
          rw [deliver_eq rests handled ready]
          refine ⟨?_, rfl, ready.rests, ready.sent⟩
          cases error with
          | shapeMismatch name version => exact .mismatched decoded ended rfl rfl
          | malformed issues => exact .undecodable decoded (by simp) ended rfl rfl
          | invalid name version issues => exact .undecodable decoded (by simp) ended rfl rfl
          | outOfCalendar => exact .undecodable decoded (by simp) ended rfl rfl

end Workflow
end Fulfilment
