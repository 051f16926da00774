import Fulfilment.Proofs.Contention.Attempt
import Fulfilment.Proofs.Workflow.Agreement

/-!
# Calls that nothing disturbs

While the broker takes every message, the settings give every column of a shipment, the identifiers
to come are new and the due numbers fit, an order always has a plan, and the first attempt carries
it out.  So a call gives a result for every body that is a completed order.
-/

namespace Fulfilment

namespace Publish

open Fulfilment.Action Fulfilment.Change Fulfilment.Service

/-- An event is published if nothing stands in the way of it. -/
theorem published_of_clear
    {service after : Service}
    {event : Envelope ShippingCreated}
    {result : Except Failure Unit}
    (clear : service.obstacle? .events = none)
    (performed : (Publish.event (.shippingCreated event)).perform service = (result, after)) :
    result = .ok () := by
  simp only [Publish.event, Publish.envelope, perform_bind, perform_get, perform_attempt]
    at performed
  cases publishing : (Channel.send .events event.partitionKey
      (some (Event.shippingCreated event).encode)
      (Publish.eventHeaders service.routingKey event)).perform service with
  | mk published between =>
      obtain ⟨-, sent, -, settled⟩ := Channel.perform_send publishing
      rw [clear] at settled
      cases settled
      simp only [publishing] at performed
      cases performed
      rfl

end Publish

namespace Workflow

open Fulfilment.Action Fulfilment.Change Fulfilment.Service

namespace Plan

/-- The tables once a plan is carried out. -/
def after
    (plan : Plan)
    (tables : Tables) : Tables :=
  match plan with
  | .duplicate => tables
  | .fulfilled _ next => next
  | .created _ _ _ next => next

/-- The messages that a plan sends, as the broker acknowledges them. -/
def sent
    (plan : Plan)
    (task : Task) : List Message :=
  match plan with
  | .duplicate => []
  | .fulfilled _ _ => []
  | .created _ _ event _ => [{ task.message event with acknowledged := true }]

/-- How many identifiers a plan takes. -/
def identifiers (plan : Plan) : Nat :=
  match plan with
  | .duplicate => 0
  | .fulfilled _ _ => 0
  | .created _ _ _ _ => 2

end Plan

variable
  {service : Service}
  {tables : Tables}
  {envelope : Envelope OrderCompleted}
  {plan : Plan}

/-- With nothing in the way a unit of work carries out its plan. -/
theorem perform_unitOfWork_of_plan
    (rests : service.Rests tables)
    (clear : service.obstacle? .events = none)
    (planned : (service.task envelope).plan tables = .ok plan) :
    ∃ after, (unitOfWork envelope).perform service = (.ok (plan.result envelope.eventId), after)
      ∧ service.Continues (plan.after tables) (plan.sent (service.task envelope)) after
      ∧ after.issued = service.issued + plan.identifiers := by
  cases processing : (process envelope).perform service with
  | mk processed between =>
      cases processed_process rests processing with
      | refused _ _ refused _ => cases planned.symm.trans refused
      | duplicate duplicate =>
          cases planned.symm.trans duplicate
          obtain ⟨log, committed⟩ := perform_unitOfWork_of_ok processing rests.store rests.faults
          exact ⟨_, committed, ⟨⟨rfl, rests.faults⟩, rfl, rfl, rfl, rfl, rfl, by simp [Plan.sent]⟩,
            rfl⟩
      | fulfilled fulfilled =>
          cases planned.symm.trans fulfilled
          obtain ⟨log, committed⟩ := perform_unitOfWork_of_ok processing rfl rests.faults
          exact ⟨_, committed, ⟨⟨rfl, rests.faults⟩, rfl, rfl, rfl, rfl, rfl,
            by simp [Plan.sent, Service.writing]⟩, rfl⟩
      | published creation publishing =>
          cases planned.symm.trans creation
          obtain rfl : _ = Except.ok () := by
            refine Publish.published_of_clear ?_ publishing
            exact clear
          obtain ⟨store, faultless, sent, sending, continues⟩ :=
            continues_event rests.faults publishing
          obtain ⟨uses, -⟩ := Publish.sends_envelope publishing
          obtain ⟨log, committed⟩ := perform_unitOfWork_of_ok processing store faultless
          cases sending
          exact ⟨_, committed, continues _ log, uses.issued⟩

/-- A unit of work that gives a result is the only attempt. -/
theorem perform_attempts_of_ok
    {result : Result}
    {after : Service}
    (retries number : Nat)
    (performed : (unitOfWork envelope).perform service = (.ok result, after)) :
    (attempts envelope retries number).perform service = (.ok result, after) := by
  cases retries with
  | zero => exact performed
  | succ retries => simp only [attempts, perform_bind, perform_attempt, performed, perform_pure]

/-- What makes sure of a plan: settings that give every column, an identifier that is new, and a
number that fits. -/
structure Task.Provided
    (task : Task)
    (tables : Tables) : Prop where
  named : task.settings.serviceName.isSome = true
  method : task.settings.shippingMethod.isSome = true
  carrier : task.settings.carrier.isSome = true
  unused : ¬ tables.Uses task.shippingId
  nonnegative : 0 ≤ tables.due task.envelope.resolvedKey
  fits : tables.due task.envelope.resolvedKey < Tables.greatestCounter

/-- The parts of an outbound envelope are sound if there is a producer and the number fits. -/
theorem exists_outboundParts
    {producer : Option String}
    {sequence : Int}
    (named : producer.isSome = true)
    (nonnegative : 0 ≤ sequence)
    (fits : sequence < Tables.greatestCounter) :
    ∃ parts, outboundParts producer sequence = .ok parts := by
  obtain ⟨name, rfl⟩ := Option.isSome_iff_exists.mp named
  have small : sequence < (UInt64.size : Int) :=
    Int.lt_trans fits (show Tables.greatestCounter < (UInt64.size : Int) by decide)
  simp only [outboundParts, Schema.Reading.ofOption, Schema.Reading.under_ok,
    Schema.Reading.map_ok, Schema.word_of_fits nonnegative small, Schema.Reading.seq_ok]
  exact ⟨_, rfl⟩

/-- An order has a plan if everything for it is provided. -/
theorem Task.Provided.exists_plan
    {task : Task}
    (provided : task.Provided tables) : ∃ plan, task.plan tables = .ok plan := by
  cases planned : task.plan tables with
  | ok plan => exact ⟨plan, rfl⟩
  | error failure =>
      exfalso
      obtain ⟨unknown, unshipped⟩ := Task.new_of_plan_eq_error planned
      rw [Task.plan_of_no_shipment unknown (Tables.shipmentOfOrder?_eq_none_iff.mpr unshipped)]
        at planned
      rcases bind_eq_error planned with refused | ⟨⟨shipment, shipped⟩, placed, planned⟩
      · obtain ⟨error, rejected, -⟩ := stored_eq_error refused
        exact unshipped
          (Task.place_eq_error provided.method provided.carrier provided.unused rejected).2
      · obtain ⟨-, inserted⟩ := Task.eq_of_place_eq_ok (stored_eq_ok placed)
        obtain ⟨-, -, rfl⟩ := Tables.insertShipment_eq_ok_iff.mp inserted
        have taken : (tables.withShipment shipment).allocate task.envelope.resolvedKey =
            .ok (tables.due task.envelope.resolvedKey, _) :=
          Tables.allocate_eq_ok_iff.mpr ⟨rfl, provided.fits, rfl⟩
        obtain ⟨parts, sound⟩ := exists_outboundParts provided.named provided.nonnegative
          provided.fits
        have unknown : ¬ task.IsKnown ((tables.withShipment shipment).withTaken
            task.envelope.resolvedKey (tables.due task.envelope.resolvedKey)) := unknown
        simp only [taken, stored_ok, ok_bind, Task.outbound, sound, Schema.Reading.map, checked,
          Task.enter_of_not_isKnown unknown] at planned
        cases planned

/-- The broker takes every message of a delivery. -/
structure Delivery.IsFaultless (delivery : Delivery) : Prop where
  connecting : ∀ fault ∈ delivery.connectFaults, fault = none
  sending : ∀ fault ∈ delivery.sendFaults, fault = none

theorem head?_join_of_faultless
    {faults : List (Option α)}
    (faultless : ∀ fault ∈ faults, fault = none) : faults.head?.join = none := by
  cases faults with
  | nil => rfl
  | cons fault _ => simp [faultless fault (.head _)]

/-- Nothing stands in the way of the messages of a faultless delivery. -/
theorem obstacle?_facing
    {delivery : Delivery}
    (faultless : delivery.IsFaultless)
    (channel : Channel) : (facing service delivery).obstacle? channel = none := by
  have connects : (facing service delivery).connectFault? channel = none := by
    unfold Service.connectFault?
    split
    · rfl
    · exact head?_join_of_faultless faultless.connecting
  have sends : (facing service delivery).broker.sendFaults.head?.join = none :=
    head?_join_of_faultless faultless.sending
  rw [Service.obstacle?, connects]
  simp only [sends, Option.map_none]

/-- A call about an order for which everything is provided carries out its plan. -/
theorem perform_deliver_of_plan
    {delivery : Delivery}
    (retries : Int)
    (rests : service.Rests tables)
    (faultless : delivery.IsFaultless)
    (decoded : Event.decodeOrderCompleted delivery.body = .ok envelope)
    (planned : ((facing service delivery).task envelope).plan tables = .ok plan) :
    (deliver retries delivery service).1.ending = .ok (plan.result envelope.eventId)
      ∧ (facing service delivery).Continues (plan.after tables)
        (plan.sent ((facing service delivery).task envelope)) (deliver retries delivery service).2
      ∧ (deliver retries delivery service).2.issued = service.issued + plan.identifiers := by
  have facingRests : (facing service delivery).Rests tables := ⟨rests.store, rests.faults⟩
  obtain ⟨after, performed, continues, issued⟩ :=
    perform_unitOfWork_of_plan facingRests (obstacle?_facing faultless .events) planned
  have handled : (handle retries delivery.body).perform (facing service delivery) =
      (.ok (plan.result envelope.eventId), after) := by
    rw [handle, decoded]
    exact perform_attempts_of_ok _ _ performed
  simp only [deliver, handled, true_and]
  exact ⟨continues, issued⟩

/-- A call about a body that is no completed order leaves everything but the log. -/
theorem perform_deliver_of_error
    {delivery : Delivery}
    {error : DecodeError}
    (retries : Int)
    (rests : service.Rests tables)
    (decoded : Event.decodeOrderCompleted delivery.body = .error error) :
    (facing service delivery).Continues tables [] (deliver retries delivery service).2
      ∧ (deliver retries delivery service).2.issued = service.issued := by
  have itself : (facing service delivery).Continues tables [] (facing service delivery) :=
    ⟨⟨rests.store, rests.faults⟩, rfl, rfl, rfl, rfl, rfl, by simp⟩
  unfold deliver handle
  rw [decoded]
  cases error with
  | shapeMismatch name version => exact ⟨itself.log _, rfl⟩
  | malformed issues => exact ⟨itself, rfl⟩
  | invalid name version issues => exact ⟨itself, rfl⟩
  | outOfCalendar => exact ⟨itself, rfl⟩

end Workflow
end Fulfilment
