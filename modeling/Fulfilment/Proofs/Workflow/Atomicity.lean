import Fulfilment.Proofs.Workflow.Call

/-!
# A call does all of its work or none

Whatever the tables hold and whatever the broker does, a call has one of five complete effects.
A failure leaves no trace in the tables and no acknowledged message, an event is acted upon once,
an order is shipped once, and a created shipment comes with its number, its ledger entry and
exactly one acknowledged message.
-/

namespace Fulfilment

/-- The service at rest over some tables, before a faultless store and a broker that has nothing. -/
def Service.over
    (service : Service)
    (tables : Tables) : Service :=
  { service with
    store := .ofTables tables
    storeFaults := {}
    broker := { service.broker with sent := [] } }

/-- The service over some tables is at rest. -/
theorem Service.rests_over
    (service : Service)
    (tables : Tables) : (service.over tables).Rests tables :=
  ⟨rfl, rfl⟩

namespace Workflow

/-- The complete effect of a call, by the way in which it ends. -/
structure Atomic (call : Call) : Prop where
  /-- A failure, an interrupt included, leaves the tables and no acknowledged message. -/
  failed : ∀ failure, call.ending = .error failure →
    call.after = call.before ∧ ∀ message ∈ call.sent, message.acknowledged = false
  /-- An event of another shape does nothing. -/
  mismatched : call.EndsWith .shapeMismatch →
    (∃ name version, call.decoded = .error (.shapeMismatch name version))
      ∧ call.after = call.before ∧ call.sent = []
  /-- An event is a duplicate exactly if it is in the ledger. -/
  duplicate_iff : call.EndsWith .duplicate ↔
    ∃ envelope, call.decoded = .ok envelope ∧ call.IsKnown envelope
  /-- A duplicate does nothing. -/
  duplicate : call.EndsWith .duplicate → call.after = call.before ∧ call.sent = []
  /-- A new event is already fulfilled exactly if its order has a shipment. -/
  fulfilled_iff : call.EndsWith .alreadyFulfilled ↔
    ∃ envelope, call.decoded = .ok envelope ∧ ¬ call.IsKnown envelope
      ∧ call.before.HasShipment envelope.payload.orderId
  /-- For an order that is already fulfilled the event enters the ledger, if it has an identifier,
  and the result names the shipment of the order. -/
  fulfilled : ∀ result, call.ending = .ok result → result.outcome = .alreadyFulfilled →
    ∃ envelope shipment, call.decoded = .ok envelope
      ∧ shipment ∈ call.before.shipments
      ∧ shipment.orderId = envelope.payload.orderId
      ∧ result.shippingId = some shipment.shippingId
      ∧ call.after = call.before.withEntry (call.ledgerRow? envelope)
      ∧ call.sent = []
  /-- Any other order is shipped or fails. -/
  otherwise : ∀ envelope, call.decoded = .ok envelope → ¬ call.IsKnown envelope →
    ¬ call.before.HasShipment envelope.payload.orderId →
      call.EndsWith .created ∨ ∃ failure, call.ending = .error failure
  /-- An order that is shipped gets one shipment, one number and one acknowledged message, and its
  event enters the ledger, if it has an identifier. -/
  created : ∀ result, call.ending = .ok result → result.outcome = .created →
    ∃ envelope shipment event, CreatesOne call envelope result shipment event

/-- A call that gives a result ends with its outcome alone. -/
theorem Call.endsWith_iff
    {call : Call}
    {result : Result}
    (ending : call.ending = .ok result)
    (outcome : Outcome) : call.EndsWith outcome ↔ result.outcome = outcome := by
  simp [EndsWith, ending]

/-- A call that fails ends with no outcome. -/
theorem Call.not_endsWith
    {call : Call}
    {failure : Failure}
    (ending : call.ending = .error failure)
    (outcome : Outcome) : ¬ call.EndsWith outcome := by
  simp [EndsWith, ending]

namespace Effect

variable {call : Call}

/-- A call that fails leaves the tables and no acknowledged message. -/
theorem of_error
    {failure : Failure}
    (effect : Effect call)
    (ended : call.ending = .error failure) :
    call.after = call.before ∧ ∀ message ∈ call.sent, message.acknowledged = false := by
  cases effect with
  | undecodable _ _ _ kept silent => exact ⟨kept, by simp [silent]⟩
  | failed _ _ _ _ kept unacknowledged _ => exact ⟨kept, unacknowledged⟩
  | mismatched _ ending _ _ => cases ended.symm.trans ending
  | duplicate _ _ ending _ _ => cases ended.symm.trans ending
  | fulfilled _ _ _ ending _ _ => cases ended.symm.trans ending
  | created ending _ => cases ended.symm.trans ending

/-- A call of another shape leaves the tables and sends nothing. -/
theorem of_mismatch
    (effect : Effect call)
    (ended : call.EndsWith .shapeMismatch) :
    (∃ name version, call.decoded = .error (.shapeMismatch name version))
      ∧ call.after = call.before ∧ call.sent = [] := by
  cases effect with
  | mismatched decoded _ kept silent => exact ⟨⟨_, _, decoded⟩, kept, silent⟩
  | undecodable _ _ ending _ _ => exact absurd ended (Call.not_endsWith ending _)
  | failed _ _ _ ending _ _ _ => exact absurd ended (Call.not_endsWith ending _)
  | duplicate _ _ ending _ _ => cases (Call.endsWith_iff ending _).mp ended
  | fulfilled _ _ _ ending _ _ => cases (Call.endsWith_iff ending _).mp ended
  | created ending creates => cases creates.result ▸ (Call.endsWith_iff ending _).mp ended

/-- A duplicate is known, leaves the tables and sends nothing. -/
theorem of_duplicate
    (effect : Effect call)
    (ended : call.EndsWith .duplicate) :
    (∃ envelope, call.decoded = .ok envelope ∧ call.IsKnown envelope)
      ∧ call.after = call.before ∧ call.sent = [] := by
  cases effect with
  | duplicate decoded known _ kept silent => exact ⟨⟨_, decoded, known⟩, kept, silent⟩
  | undecodable _ _ ending _ _ => exact absurd ended (Call.not_endsWith ending _)
  | failed _ _ _ ending _ _ _ => exact absurd ended (Call.not_endsWith ending _)
  | mismatched _ ending _ _ => cases (Call.endsWith_iff ending _).mp ended
  | fulfilled _ _ _ ending _ _ => cases (Call.endsWith_iff ending _).mp ended
  | created ending creates => cases creates.result ▸ (Call.endsWith_iff ending _).mp ended

/-- An order that is already fulfilled has a shipment, and only the event is entered. -/
theorem of_fulfilled
    {result : Result}
    (effect : Effect call)
    (ended : call.ending = .ok result)
    (outcome : result.outcome = .alreadyFulfilled) :
    ∃ envelope shipment, call.decoded = .ok envelope
      ∧ ¬ call.IsKnown envelope
      ∧ shipment ∈ call.before.shipments
      ∧ shipment.orderId = envelope.payload.orderId
      ∧ result.shippingId = some shipment.shippingId
      ∧ call.after = call.before.withEntry (call.ledgerRow? envelope)
      ∧ call.sent = [] := by
  cases effect with
  | fulfilled decoded unknown found ending entered silent =>
      cases ended.symm.trans ending
      obtain ⟨member, order⟩ := Tables.hasShipment_of_shipmentOfOrder? found
      exact ⟨_, _, decoded, unknown, member, order, rfl, entered, silent⟩
  | undecodable _ _ ending _ _ => cases ended.symm.trans ending
  | failed _ _ _ ending _ _ _ => cases ended.symm.trans ending
  | mismatched _ ending _ _ =>
      cases ended.symm.trans ending
      cases outcome
  | duplicate _ _ ending _ _ =>
      cases ended.symm.trans ending
      cases outcome
  | created ending creates =>
      cases ended.symm.trans ending
      cases creates.result ▸ outcome

/-- A call that ends with a creation creates one shipment. -/
theorem of_created
    {result : Result}
    (effect : Effect call)
    (ended : call.ending = .ok result)
    (outcome : result.outcome = .created) :
    ∃ envelope shipment event, CreatesOne call envelope result shipment event := by
  cases effect with
  | created ending creates =>
      cases ended.symm.trans ending
      exact ⟨_, _, _, creates⟩
  | undecodable _ _ ending _ _ => cases ended.symm.trans ending
  | failed _ _ _ ending _ _ _ => cases ended.symm.trans ending
  | mismatched _ ending _ _ =>
      cases ended.symm.trans ending
      cases outcome
  | duplicate _ _ ending _ _ =>
      cases ended.symm.trans ending
      cases outcome
  | fulfilled _ _ _ ending _ _ =>
      cases ended.symm.trans ending
      cases outcome

/-- A call about a completed order ends as the tables demand. -/
theorem ending_of_decoded
    {envelope : Envelope OrderCompleted}
    (effect : Effect call)
    (decoded : call.decoded = .ok envelope) :
    call.IsKnown envelope ∧ call.EndsWith .duplicate
      ∨ ¬ call.IsKnown envelope ∧ call.before.HasShipment envelope.payload.orderId
        ∧ call.EndsWith .alreadyFulfilled
      ∨ ¬ call.IsKnown envelope ∧ ¬ call.before.HasShipment envelope.payload.orderId
        ∧ (call.EndsWith .created ∨ ∃ failure, call.ending = .error failure) := by
  cases effect with
  | undecodable other => cases decoded.symm.trans other
  | mismatched other => cases decoded.symm.trans other
  | duplicate same known ending _ _ =>
      cases decoded.symm.trans same
      exact .inl ⟨known, _, ending, rfl⟩
  | fulfilled same unknown found ending _ _ =>
      cases decoded.symm.trans same
      exact .inr (.inl ⟨unknown, ⟨_, Tables.hasShipment_of_shipmentOfOrder? found⟩, _, ending,
        rfl⟩)
  | failed same unknown unshipped ending _ _ _ =>
      cases decoded.symm.trans same
      exact .inr (.inr ⟨unknown, unshipped, .inr ⟨_, ending⟩⟩)
  | created ending creates =>
      cases decoded.symm.trans creates.decoded
      exact .inr (.inr ⟨creates.unknown, creates.unshipped,
        .inl ⟨_, ending, by rw [creates.result]⟩⟩)

/-- A call does all of its work or none. -/
theorem atomic (effect : Effect call) : Atomic call where
  failed := fun _ ended => effect.of_error ended
  mismatched := effect.of_mismatch
  duplicate_iff := by
    refine ⟨fun ended => (effect.of_duplicate ended).1, ?_⟩
    rintro ⟨envelope, decoded, known⟩
    rcases effect.ending_of_decoded decoded with ⟨_, ended⟩ | ⟨unknown, _⟩ | ⟨unknown, _⟩
    · exact ended
    · exact absurd known unknown
    · exact absurd known unknown
  duplicate := fun ended => (effect.of_duplicate ended).2
  fulfilled_iff := by
    constructor
    · rintro ⟨result, ended, outcome⟩
      obtain ⟨envelope, shipment, decoded, unknown, member, order, -⟩ :=
        effect.of_fulfilled ended outcome
      exact ⟨envelope, decoded, unknown, shipment, member, order⟩
    · rintro ⟨envelope, decoded, unknown, shipped⟩
      rcases effect.ending_of_decoded decoded with ⟨known, _⟩ | ⟨_, _, ended⟩ | ⟨_, unshipped, _⟩
      · exact absurd known unknown
      · exact ended
      · exact absurd shipped unshipped
  fulfilled := by
    intro result ended outcome
    obtain ⟨envelope, shipment, decoded, -, rest⟩ := effect.of_fulfilled ended outcome
    exact ⟨envelope, shipment, decoded, rest⟩
  otherwise := by
    intro envelope decoded unknown unshipped
    rcases effect.ending_of_decoded decoded with ⟨known, _⟩ | ⟨_, shipped, _⟩ | ⟨_, _, ended⟩
    · exact absurd known unknown
    · exact absurd shipped unshipped
    · exact ended
  created := fun _ ended outcome => effect.of_created ended outcome

end Effect

/-- Every call does all of its work or none, from any tables, for any body, settings and number of
retries, and under any faults of the broker. -/
theorem atomic_deliver
    (service : Service)
    (tables : Tables)
    (retries : Int)
    (delivery : Delivery) :
    (deliver retries delivery (service.over tables)).1.before = tables
      ∧ Atomic (deliver retries delivery (service.over tables)).1 := by
  obtain ⟨effect, before, -⟩ := effect_deliver retries delivery (service.rests_over tables)
  exact ⟨before, effect.atomic⟩

end Workflow
end Fulfilment
