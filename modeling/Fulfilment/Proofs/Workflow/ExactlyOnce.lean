import Fulfilment.Proofs.Workflow.Run

/-!
# Every order is shipped and announced once

However often and in whatever company an order is delivered, and whatever the broker does, there
is at most one shipment for it and exactly one acknowledged message for every shipment.  The
ledger holds every event that was acted upon, once.
-/

namespace Fulfilment
namespace Workflow

/-- The identifier of the event that a call has acted upon. -/
def Call.entered? (call : Call) : Option Uuid :=
  match call.ending, call.decoded with
  | .ok result, .ok envelope =>
      if result.outcome = .created ∨ result.outcome = .alreadyFulfilled then envelope.eventId
      else none
  | _, _ => none

/-- Every order has at most one shipment and every shipment exactly one announcement, and the
ledger holds the events that were acted upon, each once. -/
structure OnceOnly
    (tables : Tables)
    (announcements : List (Envelope ShippingCreated))
    (entered : List Uuid) : Prop where
  unique : tables.Unique
  announced : ∀ orderId, announcementsOf announcements orderId = tables.shipmentsOf orderId
  ledger : tables.ledger.map LedgerEntry.eventId = entered

namespace OnceOnly

variable
  {call : Call}
  {tables : Tables}
  {announcements : List (Envelope ShippingCreated)}
  {entered : List Uuid}

/-- Tables without shipments and ledger entries are those of nothing done. -/
theorem of_counters (counters : Counters) : OnceOnly { counters } [] [] where
  unique := ⟨List.nodup_nil, List.nodup_nil, List.nodup_nil⟩
  announced := fun _ => rfl
  ledger := rfl

/-- A new event in the ledger was entered once. -/
theorem withEntry
    {envelope : Envelope OrderCompleted}
    (once : OnceOnly tables announcements entered)
    (known : ∀ eventId, tables.Knows eventId ↔ call.before.Knows eventId)
    (unknown : ¬ call.IsKnown envelope) :
    OnceOnly (tables.withEntry (call.ledgerRow? envelope)) announcements
      (entered ++ envelope.eventId.toList) where
  unique := once.unique.withEntry fun entry member found => by
    obtain ⟨eventId, identified, rfl⟩ := Option.map_eq_some_iff.mp member
    exact unknown ⟨eventId, identified, (known eventId).mp found⟩
  announced := once.announced
  ledger := by
    cases identified : envelope.eventId with
    | none => simp [Call.ledgerRow?, identified, once.ledger]
    | some eventId => simp [Call.ledgerRow?, identified, Tables.withEntry, once.ledger]

/-- A new shipment with its announcement is one more of both. -/
theorem withShipment
    {shipment : Shipment}
    {event : Envelope ShippingCreated}
    (once : OnceOnly tables announcements entered)
    (unused : ¬ tables.Uses shipment.shippingId)
    (unshipped : ¬ tables.HasShipment shipment.orderId)
    (same : event.payload.orderId = shipment.orderId) :
    OnceOnly (tables.withShipment shipment) (announcements ++ [event]) entered where
  unique := once.unique.withShipment unused unshipped
  announced := by
    intro orderId
    have counted := once.announced orderId
    simp only [announcementsOf, Tables.shipmentsOf] at counted
    simp only [announcementsOf, Tables.shipmentsOf, Tables.withShipment, List.map_append,
      List.map_cons, List.map_nil, List.count_append, counted, same]
  ledger := once.ledger

/-- A taken number is neither a shipment nor a ledger entry. -/
theorem withTaken
    (once : OnceOnly tables announcements entered)
    (key : String)
    (sequence : Int) : OnceOnly (tables.withTaken key sequence) announcements entered where
  unique := once.unique.withTaken key sequence
  announced := once.announced
  ledger := once.ledger

/-- A call keeps everything to once, whatever it does. -/
theorem effect
    (once : OnceOnly call.before announcements entered)
    (effect : Effect call) :
    OnceOnly call.after (announcements ++ call.announcements)
      (entered ++ call.entered?.toList) := by
  cases effect with
  | undecodable decoded other ending kept silent =>
      simpa [kept, Call.announcements, silent, Call.entered?, ending] using once
  | mismatched decoded ending kept silent =>
      simpa [kept, Call.announcements, silent, Call.entered?, ending, decoded] using once
  | duplicate decoded known ending kept silent =>
      simpa [kept, Call.announcements, silent, Call.entered?, ending, decoded] using once
  | @fulfilled envelope shipment decoded unknown found ending stored silent =>
      have acted : call.entered? = envelope.eventId := by simp [Call.entered?, ending, decoded]
      rw [stored, acted]
      simpa [Call.announcements, silent] using once.withEntry (fun _ => Iff.rfl) unknown
  | failed decoded unknown unshipped ending kept unacknowledged possible =>
      have nothing : call.announcements = [] :=
        Message.announcements_of_unacknowledged unacknowledged
      simpa [kept, nothing, Call.entered?, ending] using once
  | @created envelope result shipment event ending creates =>
      have announced := creates.announcements
      obtain ⟨decoded, unknown, unshipped, unused, -, rfl, order, stored, -, -, about, -⟩ := creates
      have acted : call.entered? = envelope.eventId := by simp [Call.entered?, ending, decoded]
      rw [stored, announced, acted]
      rw [← order] at unshipped
      have shipped := once.withShipment unused unshipped (about.trans order.symm)
      exact (shipped.withTaken _ _).withEntry (fun _ => Iff.rfl) unknown

/-- What every call keeps, a trace of calls keeps. -/
theorem trace
    {last : Tables}
    {calls : List Call}
    (trace : Trace tables calls last)
    (once : OnceOnly tables announcements entered) :
    OnceOnly last (announcements ++ calls.flatMap Call.announcements)
      (entered ++ calls.filterMap Call.entered?) := by
  induction trace generalizing announcements entered with
  | nil tables => simpa using once
  | @cons call calls last effect _ ih =>
      have kept := ih (once.effect effect)
      cases acted : call.entered? with
      | none => simpa [acted, List.append_assoc] using kept
      | some eventId => simpa [acted, List.append_assoc] using kept

end OnceOnly

/-- From empty tables with any counters, after any deliveries and under any faults of the broker,
every order has at most one shipment, no two shipments share an identifier, the broker has
acknowledged exactly one message about every shipment, and the ledger holds exactly the events that
were acted upon, each once. -/
theorem onceOnly_run
    (service : Service)
    (counters : Counters)
    (retries : Int)
    (deliveries : List Delivery) :
    let (calls, last) := run retries deliveries (service.over { counters })
    (last.store.committed.shipments.map Shipment.orderId).Nodup
      ∧ (last.store.committed.shipments.map Shipment.shippingId).Nodup
      ∧ (∀ orderId,
        announcementsOf (Message.announcements last.broker.sent) orderId =
            last.store.committed.shipmentsOf orderId
          ∧ last.store.committed.shipmentsOf orderId ≤ 1)
      ∧ last.store.committed.ledger.map LedgerEntry.eventId = calls.filterMap Call.entered?
      ∧ (calls.filterMap Call.entered?).Nodup := by
  obtain ⟨trace, -⟩ := trace_run retries deliveries (service.rests_over { counters })
  have once := (OnceOnly.of_counters counters).trace trace
  refine ⟨once.unique.orders, once.unique.shippingIds, fun orderId =>
    ⟨?_, once.unique.shipmentsOf_le_one orderId⟩, once.ledger, ?_⟩
  · rw [announcements_run]
    exact once.announced orderId
  · have events := once.unique.events
    rw [once.ledger] at events
    exact events

end Workflow
end Fulfilment
