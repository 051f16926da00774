import Fulfilment.Proofs.Api.Lookup
import Fulfilment.Proofs.Calendar.Text
import Fulfilment.Proofs.Workflow.Redelivery

/-!
# The event, the row and the read interface agree

A call that creates a shipment leaves a row of it, tells the broker about it in one message, and
lets the read interface show it.  The three are made by different parts of the service.  What the
message is decoded to has the members of the row and of the event that caused it, what the message
carries beside its body repeats the body, and the read interface shows that row for ever.
-/

namespace Fulfilment

namespace Text

/-- A text is blank exactly if trimming leaves nothing of it. -/
theorem isBlankText_iff (text : String) :
    isBlankText text = true ↔ trimBy isBlank text.toList = [] := by
  refine ⟨trimBy_eq_nil_of_all, fun trimmed => ?_⟩
  have dropped : ∀ character ∈ text.toList.dropWhile isBlank, isBlank character = true := by
    intro character member
    rw [trimBy, List.reverse_eq_nil_iff, List.dropWhile_eq_nil_iff] at trimmed
    exact trimmed character (List.mem_reverse.mpr member)
  rw [isBlankText, ← @List.takeWhile_append_dropWhile _ isBlank text.toList, List.all_append,
    List.all_eq_true.mpr dropped, List.all_takeWhile]
  rfl

end Text

/-- A written identifier is not empty. -/
theorem Uuid.text_ne_empty (identifier : Uuid) : identifier.text ≠ "" := by
  intro empty
  have sized := identifier.length_characters
  rw [← @String.toList_ofList identifier.characters] at sized
  change identifier.text.toList.length = 36 at sized
  rw [empty] at sized
  cases sized

namespace Envelope

/-- The key of an order's event is its own one if trimming leaves something of that. -/
theorem resolvedKey_eq (inbound : Envelope OrderCompleted) :
    inbound.resolvedKey =
      if Text.trimBy Text.isBlank inbound.partitionKey.toList = [] then
        inbound.payload.orderId.text
      else inbound.partitionKey := by
  simp only [resolvedKey, Text.isBlankText_iff]

/-- The key of an order's event is never empty. -/
theorem resolvedKey_ne_empty (inbound : Envelope OrderCompleted) : inbound.resolvedKey ≠ "" := by
  unfold resolvedKey
  split
  · exact Uuid.text_ne_empty _
  · next filled =>
      intro empty
      rw [empty] at filled
      exact filled rfl

end Envelope

/-- No identifier was issued twice. -/
def Service.IssuedOnce (service : Service) : Prop :=
  ∀ first second, 0 < first → first < second → second ≤ service.issued →
    service.identifier first ≠ service.identifier second

/-- Using a channel issues no identifiers. -/
theorem Service.Uses.issued
    {channel : Channel}
    {before after : Service}
    (uses : Uses channel before after) : after.issued = before.issued := by
  rw [uses]
  cases channel <;> rfl

/-- The row of a shipment that is told in an event.  Its time is the wall clock of UTC. -/
def ShippingCreated.row (payload : ShippingCreated) : Shipment where
  shippingId := payload.shippingId
  orderId := payload.orderId
  userId := payload.userId
  address := payload.address
  shippingMethod := payload.shippingMethod
  carrier := payload.carrier
  createdAt := payload.createdAt.wall

/-- An identifier that was not in use belongs to the shipment that is added under it. -/
theorem Tables.shipment?_withShipment
    {tables : Tables}
    {shipment : Shipment}
    (unused : ¬ tables.Uses shipment.shippingId) :
    (tables.withShipment shipment).shipment? shipment.shippingId = some shipment := by
  rw [← isSome_shipment?, Option.not_isSome_iff_eq_none, shipment?] at unused
  simp [shipment?, withShipment, List.find?_append, unused]

namespace Workflow

open Fulfilment.Action Fulfilment.Change Fulfilment.Service

/-! ## The attempt that creates -/

/-- Attempts that give a result end with the unit of work of a service that has only failed
before. -/
theorem unitOfWork_of_attempts
    {service after : Service}
    {tables : Tables}
    {envelope : Envelope OrderCompleted}
    {retries number : Nat}
    {result : Result}
    (rests : service.Rests tables)
    (performed : (attempts envelope retries number).perform service = (.ok result, after)) :
    ∃ between earlier, service.Continues tables earlier between
      ∧ (∀ message ∈ earlier, message.acknowledged = false)
      ∧ (unitOfWork envelope).perform between = (.ok result, after) := by
  have itself : service.Continues tables [] service :=
    ⟨rests, rfl, rfl, rfl, rfl, rfl, by simp⟩
  induction retries generalizing service number with
  | zero => exact ⟨service, [], itself, by simp, performed⟩
  | succ retries ih =>
      cases working : (unitOfWork envelope).perform service with
      | mk first between =>
          obtain ⟨next, sent, attempted, continues⟩ := attempted_unitOfWork rests working
          simp only [attempts, perform_bind, perform_attempt, working] at performed
          cases first with
          | ok value =>
              cases performed
              exact ⟨service, [], itself, by simp, working⟩
          | error failure =>
              by_cases conflict : failure.isConflict
              · obtain ⟨log, told⟩ := perform_tellConflict envelope number between
                simp only [conflict, if_true, perform_bind, told] at performed
                obtain rfl := attempted.kept
                have resumed := continues.log log
                obtain ⟨last, later, ended, silent, final⟩ := ih resumed.rests performed
                  ⟨resumed.rests, rfl, rfl, rfl, rfl, rfl, by simp⟩
                exact ⟨last, sent ++ later, resumed.trans ended,
                  unacknowledged_append attempted.unacknowledged silent, final⟩
              · simp only [conflict, Bool.false_eq_true, if_false, perform_fail] at performed
                cases performed

/-- A unit of work that creates a shipment issues two identifiers. -/
theorem issued_of_unitOfWork
    {service after : Service}
    {tables : Tables}
    {envelope : Envelope OrderCompleted}
    {result : Result}
    (rests : service.Rests tables)
    (performed : (unitOfWork envelope).perform service = (.ok result, after))
    (outcome : result.outcome = .created) : after.issued = service.issued + 2 := by
  cases processing : (process envelope).perform service with
  | mk processed between =>
      cases processed_process rests processing with
      | refused issued log planned kept =>
          rw [perform_unitOfWork_of_error processing] at performed
          cases performed
      | duplicate planned =>
          obtain ⟨log, committed⟩ := perform_unitOfWork_of_ok processing rests.store rests.faults
          rw [committed] at performed
          cases performed
          cases outcome
      | fulfilled planned =>
          obtain ⟨log, committed⟩ := perform_unitOfWork_of_ok processing rfl rests.faults
          rw [committed] at performed
          cases performed
          cases outcome
      | @published shipment sequence event next log published _ planned publishing =>
          obtain ⟨uses, -⟩ := Publish.sends_envelope publishing
          obtain ⟨store, faultless, -⟩ := continues_event rests.faults publishing
          cases published with
          | error failure =>
              rw [perform_unitOfWork_of_error processing] at performed
              cases performed
          | ok _ =>
              obtain ⟨told, committed⟩ := perform_unitOfWork_of_ok processing store faultless
              rw [committed] at performed
              cases performed
              exact uses.issued

/-- A unit of work that creates a shipment creates that of its task, and sends one message. -/
theorem creates_of_unitOfWork
    {service after : Service}
    {tables : Tables}
    {envelope : Envelope OrderCompleted}
    {result : Result}
    (rests : service.Rests tables)
    (performed : (unitOfWork envelope).perform service = (.ok result, after))
    (outcome : result.outcome = .created) :
    ∃ shipment sequence event next,
      (service.task envelope).Creates tables shipment sequence event next
        ∧ result = (Plan.created shipment sequence event next).result envelope.eventId
        ∧ service.Continues next
          [{ (service.task envelope).message event with acknowledged := true }] after := by
  obtain ⟨next, sent, attempted, continues⟩ := attempted_unitOfWork rests performed
  generalize ended : (Except.ok result : Except Failure Result) = ending at attempted
  cases attempted with
  | refused _ => cases ended
  | unpublished _ _ => cases ended
  | duplicate _ =>
      cases ended
      cases outcome
  | fulfilled _ =>
      cases ended
      cases outcome
  | @created shipment sequence event _ planned =>
      cases ended
      obtain ⟨-, creates⟩ := Task.justified_of_plan planned
      exact ⟨shipment, sequence, event, next, creates, rfl, continues⟩

/-- A call that creates a shipment ends with a unit of work that creates it, after attempts that
have only failed. -/
theorem creates_of_deliver
    {service : Service}
    {tables : Tables}
    {retries : Int}
    {delivery : Delivery}
    {result : Result}
    (rests : service.Rests tables)
    (ended : (deliver retries delivery service).1.ending = .ok result)
    (outcome : result.outcome = .created) :
    ∃ inbound between earlier shipment sequence event next,
      (deliver retries delivery service).1.decoded = .ok inbound
        ∧ (facing service delivery).Continues tables earlier between
        ∧ (∀ message ∈ earlier, message.acknowledged = false)
        ∧ (between.task inbound).Creates tables shipment sequence event next
        ∧ result = (Plan.created shipment sequence event next).result inbound.eventId
        ∧ between.Continues next
          [{ (between.task inbound).message event with acknowledged := true }]
          (deliver retries delivery service).2
        ∧ (deliver retries delivery service).2.issued = between.issued + 2 := by
  obtain ⟨effect, -⟩ := effect_deliver retries delivery rests
  obtain ⟨inbound, _, _, creates⟩ := effect.of_created ended outcome
  have decoded : Event.decodeOrderCompleted delivery.body = .ok inbound := creates.decoded
  have facingRests : (facing service delivery).Rests tables := ⟨rests.store, rests.faults⟩
  cases handled : (handle retries delivery.body).perform (facing service delivery) with
  | mk ending after =>
      have same : ending = .ok result := by
        simpa only [deliver, handled] using ended
      have last : (deliver retries delivery service).2 = after := by
        simp only [deliver, handled]
      rw [same, handle, decoded] at handled
      obtain ⟨between, earlier, continues, silent, performed⟩ :=
        unitOfWork_of_attempts facingRests handled
      obtain ⟨shipment, sequence, event, next, made, told, finished⟩ :=
        creates_of_unitOfWork continues.rests performed outcome
      rw [last]
      exact ⟨inbound, between, earlier, shipment, sequence, event, next, decoded, continues, silent,
        made, told, finished, issued_of_unitOfWork continues.rests performed outcome⟩

/-! ## What agrees -/

/-- A created shipment as the broker is told of it: its message, the event that the message is
decoded to, and the row that is stored. -/
structure Agrees
    (service : Service)
    (call : Call)
    (inbound : Envelope OrderCompleted)
    (result : Result)
    (shipment : Shipment)
    (message : Message)
    (event : Envelope ShippingCreated) : Prop where
  caused : call.decoded = .ok inbound
  /-- The message is the only one of the call that is acknowledged. -/
  only : ∃ earlier, call.sent = earlier ++ [message]
    ∧ ∀ other ∈ earlier, other.acknowledged = false
  acknowledged : message.acknowledged = true
  topic : message.topic = service.events.topic
  decoded : Event.decode message.value EventType.shippingCreated.name EventType.version =
    .ok (.shippingCreated event)
  correlation : event.correlationId = inbound.correlationId
  causation : event.causationId = inbound.eventId
  producer : service.settings.serviceName = some event.producer
  identified : ∃ eventId, event.eventId = some eventId ∧ eventId ≠ shipment.shippingId
  partitionKey : event.partitionKey =
    if Text.trimBy Text.isBlank inbound.partitionKey.toList = [] then inbound.payload.orderId.text
    else inbound.partitionKey
  number : result.sequence.isSome ∧ event.number? = result.sequence
  occurred : event.occurredAt = event.payload.createdAt
  row : event.payload.row = shipment
  named : result.shippingId = some shipment.shippingId
  ordered : shipment.orderId = inbound.payload.orderId
  stored : shipment ∈ call.after.shipments
  key : event.partitionKey ≠ "" ∧ message.key = some (Text.encode event.partitionKey)
  headers : message.headers = [
    Header.ofText "routing_key" service.routingKey,
    Header.ofText "event_name" event.eventName,
    Header.ofText "event_version" (toString event.eventVersion)]

/-- A body that shows a shipment: an object whose members tell the stored row, each part of which
is the one that the event tells. -/
structure Shown
    (body : Json)
    (shipment : Shipment)
    (payload : ShippingCreated) : Prop where
  members : body = .object [
    ("shipping_id", .string shipment.shippingId.text),
    ("order_id", .string shipment.orderId.text),
    ("user_id", .string shipment.userId.text),
    ("address", .object [
      ("line1", .string shipment.address.line1),
      ("line2", shipment.address.line2.elim .null .string),
      ("city", .string shipment.address.city),
      ("state", .string shipment.address.state),
      ("postalCode", .string shipment.address.postalCode),
      ("country", .string shipment.address.country)]),
    ("shipping_method", .string shipment.shippingMethod),
    ("carrier", .string shipment.carrier),
    ("created_at", .string (String.ofList (DateTime.wallText shipment.createdAt)))]
  shippingId : shipment.shippingId = payload.shippingId
  orderId : shipment.orderId = payload.orderId
  userId : shipment.userId = payload.userId
  address : shipment.address = payload.address
  shippingMethod : shipment.shippingMethod = payload.shippingMethod
  carrier : shipment.carrier = payload.carrier
  /-- The time is told by the wall clock of UTC, -/
  createdAt : shipment.createdAt = payload.createdAt.wall
  /-- without an offset, and its text can be read. -/
  readable : DateTime.ofText (DateTime.wallText shipment.createdAt) =
    .ok ⟨shipment.createdAt, none⟩

/-- The shipment of an identifier and that of an order are shown, and nothing is changed by that. -/
structure Shows
    (service : Service)
    (shipment : Shipment)
    (payload : ShippingCreated) : Prop where
  byIdentifier : ∃ body,
    (Api.respond "GET" ("/api/v1/shipping/" ++ shipment.shippingId.text)).perform service =
        (.ok ⟨200, some body⟩, service)
      ∧ Shown body shipment payload
  byOrder : ∃ body,
    (Api.respond "GET" ("/api/v1/shipping/by-order/" ++ shipment.orderId.text)).perform service =
        (.ok ⟨200, some body⟩, service)
      ∧ Shown body shipment payload

/-- The body that the read interface makes of a row shows it. -/
theorem shown_shipmentBody
    {shipment : Shipment}
    {payload : ShippingCreated}
    (row : payload.row = shipment) : Shown (Api.shipmentBody shipment) shipment payload := by
  subst row
  have readable := DateTime.ofText_text ⟨payload.createdAt.wall, none⟩
  rw [DateTime.text, Option.elim_none, List.append_nil] at readable
  exact ⟨rfl, rfl, rfl, rfl, rfl, rfl, rfl, rfl, readable⟩

/-- Tables that have a new shipment and other rows behind it show that shipment. -/
theorem shows_of_grows
    {service : Service}
    {tables next : Tables}
    {shipment : Shipment}
    {payload : ShippingCreated}
    (row : payload.row = shipment)
    (unused : ¬ tables.Uses shipment.shippingId)
    (unshipped : ¬ tables.HasShipment shipment.orderId)
    (grows : (tables.withShipment shipment).Grows next)
    (rests : service.Rests next) : Shows service shipment payload where
  byIdentifier :=
    ⟨_, Api.respond_shipmentTarget rests
      (grows.shipment? (Tables.shipment?_withShipment unused)), shown_shipmentBody row⟩
  byOrder :=
    ⟨_, Api.respond_orderTarget rests
      (grows.shipmentOfOrder? (Tables.shipmentOfOrder?_withShipment unshipped)),
      shown_shipmentBody row⟩

/-- A run ends at rest over tables that have only grown. -/
theorem rests_run
    {service : Service}
    {tables : Tables}
    (retries : Int)
    (deliveries : List Delivery)
    (rests : service.Rests tables) :
    ∃ last, tables.Grows last ∧ (run retries deliveries service).2.Rests last := by
  induction deliveries generalizing service tables with
  | nil => exact ⟨tables, .refl tables, rests⟩
  | cons delivery deliveries ih =>
      obtain ⟨effect, rfl, ready⟩ := effect_deliver retries delivery rests
      obtain ⟨last, grows, rested⟩ := ih ready.rests
      exact ⟨last, effect.grows.trans grows, rested⟩

/-- The row that a task creates is the first of its identifier and order in all later tables. -/
theorem Task.Creates.grows
    {task : Task}
    {tables next : Tables}
    {shipment : Shipment}
    {sequence : Int}
    {event : Envelope ShippingCreated}
    (creates : task.Creates tables shipment sequence event next) :
    (tables.withShipment shipment).Grows next := by
  rw [creates.next]
  exact Tables.grows_withTaken _ _ _ _

/-- What the last unit of work of a call creates agrees with what the call has done. -/
theorem agrees_of_creates
    {service between after : Service}
    {tables next : Tables}
    {delivery : Delivery}
    {call : Call}
    {inbound : Envelope OrderCompleted}
    {earlier : List Message}
    {shipment : Shipment}
    {sequence : Int}
    {event : Envelope ShippingCreated}
    (caused : call.decoded = .ok inbound)
    (continues : (facing (service.over tables) delivery).Continues tables earlier between)
    (silent : ∀ message ∈ earlier, message.acknowledged = false)
    (creates : (between.task inbound).Creates tables shipment sequence event next)
    (finished : between.Continues next
      [{ (between.task inbound).message event with acknowledged := true }] after)
    (issued : after.issued = between.issued + 2)
    (ready : Ready (service.over tables) call.after call.sent after)
    (once : after.IssuedOnce) :
    Agrees service call inbound
      ((Plan.created shipment sequence event next).result inbound.eventId) shipment
      { (between.task inbound).message event with acknowledged := true } event := by
  obtain ⟨producer, number, named, told, rfl⟩ := Task.eq_of_outbound_eq_ok creates.sound
  obtain ⟨identifier, order, -⟩ := Task.eq_of_shipment_eq_ok creates.complete
  have kept : call.after = next :=
    congrArg Store.committed (ready.rests.store.symm.trans finished.rests.store)
  have sent : call.sent = earlier ++
      [{ (between.task inbound).message (shippingCreated inbound shipment producer
        (between.task inbound).eventId number) with acknowledged := true }] :=
    List.append_cancel_left (ready.sent.symm.trans (continues.trans finished).sent)
  have differs : (between.task inbound).eventId ≠ shipment.shippingId := by
    rw [identifier]
    have apart := once (between.issued + 1) (between.issued + 2) (by omega) (by omega)
      (by omega)
    rw [finished.identifier] at apart
    exact apart.symm
  have filled := inbound.resolvedKey_ne_empty
  have routed : between.routingKey = service.routingKey := continues.routingKey
  exact {
    caused
    only := ⟨earlier, sent, silent⟩
    acknowledged := rfl
    topic := continues.topic
    decoded := Event.decode_encode ⟨rfl, rfl⟩
    correlation := rfl
    causation := rfl
    producer := (congrArg Settings.serviceName continues.settings.symm).trans named
    identified := ⟨_, rfl, differs⟩
    partitionKey := inbound.resolvedKey_eq
    number := ⟨rfl, congrArg some told⟩
    occurred := rfl
    row := rfl
    named := rfl
    ordered := order
    stored := by
      rw [kept]
      exact creates.grows.shipments.subset (List.mem_append_right _ (.head _))
    key := ⟨filled, if_neg filled⟩
    headers := by
      rw [← routed]
      rfl }

/-- A completed order whose key is blank. -/
def keylessOrder : Envelope OrderCompleted where
  eventName := EventType.orderCompleted.name
  eventVersion := EventType.version
  eventId := none
  correlationId := some (.numbered 4)
  causationId := none
  producer := "order-service"
  partitionKey := " \t"
  sequence := none
  occurredAt := ⟨⟨⟨2025, 1, 1, isDate_firstOf2025⟩, .midnight⟩⟩
  schemaRef := ""
  payload := {
    orderId := .numbered 5
    userId := .numbered 6
    timestamp := ⟨⟨⟨2025, 1, 1, isDate_firstOf2025⟩, .midnight⟩, none⟩ }

/-- The delivery of that order. -/
def keylessDelivery : Delivery where
  body := some (Event.orderCompleted keylessOrder).encode
  now := ⟨⟨⟨2025, 1, 2, by decide⟩, .midnight⟩⟩

/-- A service that has issued no identifier. -/
def freshService : Service where
  clock := keylessDelivery.now

theorem decode_keylessDelivery :
    Event.decodeOrderCompleted keylessDelivery.body = .ok keylessOrder := by
  have typed : (Event.orderCompleted keylessOrder).IsTyped := ⟨rfl, rfl⟩
  have decoded : Event.decode keylessDelivery.body EventType.orderCompleted.name
      EventType.version = .ok (.orderCompleted keylessOrder) := Event.decode_encode typed
  rw [Event.decodeOrderCompleted, decoded]

end Workflow
end Fulfilment
