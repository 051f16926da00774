import Fulfilment.Proofs.Workflow.Run

/-!
# Redelivery does nothing

Calls only ever add rows to the shipments and to the ledger, behind the rows that are there.  So the
ledger entry that a call has left makes every later call about the same event a duplicate, and the
shipment that a call has told is the one that every later call about the same order finds, whatever
lies between the two calls and whatever the broker does.
-/

namespace Fulfilment

namespace Tables

/-- Later tables have the rows of earlier ones, unchanged and in front of all new rows. -/
structure Grows (before after : Tables) : Prop where
  shipments : before.shipments <+: after.shipments
  ledger : before.ledger <+: after.ledger

namespace Grows

theorem refl (tables : Tables) : tables.Grows tables :=
  ⟨List.prefix_rfl, List.prefix_rfl⟩

/-- Tables that stay as they are have no new rows. -/
theorem of_eq
    {before after : Tables}
    (kept : after = before) : before.Grows after :=
  kept ▸ refl before

theorem trans
    {first second third : Tables}
    (former : first.Grows second)
    (latter : second.Grows third) : first.Grows third :=
  ⟨former.shipments.trans latter.shipments, former.ledger.trans latter.ledger⟩

variable {before after : Tables}

/-- What is in the ledger stays there. -/
theorem knows
    {eventId : Uuid}
    (grows : before.Grows after)
    (known : before.Knows eventId) : after.Knows eventId := by
  obtain ⟨entry, member, about⟩ := known
  exact ⟨entry, grows.ledger.subset member, about⟩

/-- The first shipment of an order stays the first. -/
theorem shipmentOfOrder?
    {orderId : Uuid}
    {shipment : Shipment}
    (grows : before.Grows after)
    (found : before.shipmentOfOrder? orderId = some shipment) :
    after.shipmentOfOrder? orderId = some shipment :=
  grows.shipments.find?_eq_some found

/-- The first shipment of an identifier stays the first. -/
theorem shipment?
    {shippingId : Uuid}
    {shipment : Shipment}
    (grows : before.Grows after)
    (found : before.shipment? shippingId = some shipment) :
    after.shipment? shippingId = some shipment :=
  grows.shipments.find?_eq_some found

end Grows

theorem grows_withEntry
    (tables : Tables)
    (entry : Option LedgerEntry) : tables.Grows (tables.withEntry entry) :=
  ⟨List.prefix_rfl, List.prefix_append _ _⟩

/-- Numbers that are taken are no rows of shipments or ledger entries. -/
theorem grows_withTaken
    (tables : Tables)
    (key : String)
    (sequence : Int)
    (entry : Option LedgerEntry) :
    tables.Grows ((tables.withTaken key sequence).withEntry entry) :=
  ⟨List.prefix_rfl, List.prefix_append _ _⟩

theorem grows_withShipment
    (tables : Tables)
    (shipment : Shipment) : tables.Grows (tables.withShipment shipment) :=
  ⟨List.prefix_append _ _, List.prefix_rfl⟩

/-- An order that had no shipment has the one that is added for it. -/
theorem shipmentOfOrder?_withShipment
    {tables : Tables}
    {shipment : Shipment}
    (unshipped : ¬ tables.HasShipment shipment.orderId) :
    (tables.withShipment shipment).shipmentOfOrder? shipment.orderId = some shipment := by
  have missing := shipmentOfOrder?_eq_none_iff.mpr unshipped
  rw [shipmentOfOrder?] at missing
  simp [shipmentOfOrder?, withShipment, List.find?_append, missing]

end Tables

namespace Workflow

namespace CreatesOne

variable
  {call : Call}
  {envelope : Envelope OrderCompleted}
  {result : Result}
  {shipment : Shipment}
  {event : Envelope ShippingCreated}

/-- The tables after a creation have one shipment more and otherwise new rows only. -/
theorem grows_withShipment (creates : CreatesOne call envelope result shipment event) :
    (call.before.withShipment shipment).Grows call.after := by
  rw [creates.tables]
  exact Tables.grows_withTaken _ _ _ _

/-- The order of a created shipment is found to have it. -/
theorem shipmentOfOrder? (creates : CreatesOne call envelope result shipment event) :
    call.after.shipmentOfOrder? envelope.payload.orderId = some shipment := by
  have unshipped := creates.unshipped
  rw [← creates.order] at unshipped ⊢
  exact creates.grows_withShipment.shipmentOfOrder?
    (Tables.shipmentOfOrder?_withShipment unshipped)

end CreatesOne

namespace Call

/-- A call leaves its event in the ledger, if the event has an identifier. -/
def Enters
    (call : Call)
    (envelope : Envelope OrderCompleted) : Prop :=
  ∀ eventId ∈ envelope.eventId, call.after.Knows eventId

/-- Tables with the ledger entry of a call know its event. -/
theorem enters_of_entered
    {call : Call}
    {envelope : Envelope OrderCompleted}
    {tables : Tables}
    (entered : call.after = tables.withEntry (call.ledgerRow? envelope)) :
    call.Enters envelope := by
  intro eventId identified
  rw [entered]
  refine ⟨⟨eventId, envelope.eventName, call.now.wall⟩, ?_, rfl⟩
  apply List.mem_append_right
  simp [ledgerRow?, Option.mem_def.mp identified]

end Call

namespace Effect

variable {call : Call} {envelope : Envelope OrderCompleted} {result : Result}

/-- A call changes no row of a shipment or a ledger entry and takes none back. -/
theorem grows (effect : Effect call) : call.before.Grows call.after := by
  cases effect with
  | undecodable _ _ _ kept _ => exact .of_eq kept
  | mismatched _ _ kept _ => exact .of_eq kept
  | duplicate _ _ _ kept _ => exact .of_eq kept
  | failed _ _ _ _ kept _ _ => exact .of_eq kept
  | fulfilled _ _ _ _ entered _ =>
      rw [entered]
      exact Tables.grows_withEntry _ _
  | created _ creates =>
      exact (Tables.grows_withShipment _ _).trans creates.grows_withShipment

/-- What is left of the effects once the body is known to be a completed order. -/
theorem of_decoded
    (effect : Effect call)
    (decoded : call.decoded = .ok envelope) :
    (call.IsKnown envelope
        ∧ call.ending = .ok { outcome := .duplicate, eventId := envelope.eventId }
        ∧ call.sent = []
        ∧ call.after = call.before)
      ∨ (¬ call.IsKnown envelope
        ∧ ∃ shipment, call.before.shipmentOfOrder? envelope.payload.orderId = some shipment
          ∧ call.ending = .ok {
            outcome := .alreadyFulfilled
            eventId := envelope.eventId
            shippingId := some shipment.shippingId }
          ∧ call.sent = []
          ∧ call.after = call.before.withEntry (call.ledgerRow? envelope))
      ∨ (¬ call.IsKnown envelope ∧ ¬ call.before.HasShipment envelope.payload.orderId
        ∧ ∃ failure, call.ending = .error failure)
      ∨ ∃ result shipment event, call.ending = .ok result
        ∧ CreatesOne call envelope result shipment event := by
  cases effect with
  | undecodable other _ _ _ _ => cases other.symm.trans decoded
  | mismatched other _ _ _ => cases other.symm.trans decoded
  | duplicate same known ending kept silent =>
      cases same.symm.trans decoded
      exact .inl ⟨known, ending, silent, kept⟩
  | fulfilled same unknown found ending entered silent =>
      cases same.symm.trans decoded
      exact .inr (.inl ⟨unknown, _, found, ending, silent, entered⟩)
  | failed same unknown unshipped ending _ _ _ =>
      cases same.symm.trans decoded
      exact .inr (.inr (.inl ⟨unknown, unshipped, _, ending⟩))
  | created ending creates =>
      cases creates.decoded.symm.trans decoded
      exact .inr (.inr (.inr ⟨_, _, _, ending, creates⟩))

/-- A call that gives a result for an order leaves its event in the ledger. -/
theorem enters
    (effect : Effect call)
    (decoded : call.decoded = .ok envelope)
    (ended : call.ending = .ok result) : call.Enters envelope := by
  rcases effect.of_decoded decoded with ⟨known, -, -, kept⟩ | ⟨-, _, -, -, -, entered⟩
    | ⟨-, -, failure, failed⟩ | ⟨_, _, _, -, creates⟩
  · intro eventId identified
    obtain ⟨known, itself, recorded⟩ := known
    cases Option.mem_unique identified itself
    rwa [kept]
  · exact Call.enters_of_entered entered
  · cases failed.symm.trans ended
  · exact Call.enters_of_entered creates.tables

/-- A call that tells the shipment of an order leaves it to be found. -/
theorem shipmentOfOrder?
    (effect : Effect call)
    (decoded : call.decoded = .ok envelope)
    (ended : call.ending = .ok result)
    (told : result.outcome = .created ∨ result.outcome = .alreadyFulfilled) :
    ∃ shipment, call.after.shipmentOfOrder? envelope.payload.orderId = some shipment
      ∧ result.shippingId = some shipment.shippingId := by
  rcases effect.of_decoded decoded with ⟨-, ending, -, -⟩ | ⟨-, shipment, found, ending, -, entered⟩
    | ⟨-, -, failure, failed⟩ | ⟨_, shipment, _, ending, creates⟩
  · cases ending.symm.trans ended
    rcases told with told | told <;> cases told
  · cases ending.symm.trans ended
    refine ⟨shipment, ?_, rfl⟩
    rw [entered]
    exact (Tables.grows_withEntry _ _).shipmentOfOrder? found
  · cases failed.symm.trans ended
  · cases ending.symm.trans ended
    refine ⟨shipment, creates.shipmentOfOrder?, ?_⟩
    rw [creates.result]

/-- A call about an event that is known is a duplicate. -/
theorem duplicate_of_isKnown
    (effect : Effect call)
    (decoded : call.decoded = .ok envelope)
    (known : call.IsKnown envelope) :
    call.ending = .ok { outcome := .duplicate, eventId := envelope.eventId }
      ∧ call.sent = []
      ∧ call.after = call.before := by
  rcases effect.of_decoded decoded with ⟨-, duplicate⟩ | ⟨unknown, -⟩ | ⟨unknown, -⟩
    | ⟨_, _, _, -, creates⟩
  · exact duplicate
  · exact absurd known unknown
  · exact absurd known unknown
  · exact absurd known creates.unknown

/-- A call about a new event whose order has a shipment tells that shipment. -/
theorem fulfilled_of_shipmentOfOrder?
    {shipment : Shipment}
    (effect : Effect call)
    (decoded : call.decoded = .ok envelope)
    (unknown : ¬ call.IsKnown envelope)
    (found : call.before.shipmentOfOrder? envelope.payload.orderId = some shipment) :
    call.ending = .ok {
        outcome := .alreadyFulfilled
        eventId := envelope.eventId
        shippingId := some shipment.shippingId }
      ∧ call.sent = []
      ∧ call.after = call.before.withEntry (call.ledgerRow? envelope) := by
  have shipped : call.before.HasShipment envelope.payload.orderId :=
    ⟨shipment, Tables.hasShipment_of_shipmentOfOrder? found⟩
  rcases effect.of_decoded decoded with ⟨known, -⟩ | ⟨-, _, other, fulfilled⟩
    | ⟨-, unshipped, -⟩ | ⟨_, _, _, -, creates⟩
  · exact absurd known unknown
  · cases other.symm.trans found
    exact fulfilled
  · exact absurd shipped unshipped
  · exact absurd shipped creates.unshipped

end Effect

/-- What an earlier call settles for a later one. -/
structure Outlasts (earlier later : Call) : Prop where
  /-- Once a call has given a result for an event with an identifier, the event does nothing more,
  whatever else the later body says. -/
  event : ∀ {envelope result eventId again},
    earlier.decoded = .ok envelope → earlier.ending = .ok result →
    result.outcome ∈ [.created, .alreadyFulfilled, .duplicate] →
    envelope.eventId = some eventId →
    later.decoded = .ok again → again.eventId = some eventId →
      later.ending = .ok { outcome := .duplicate, eventId := some eventId }
        ∧ later.sent = []
        ∧ later.after = later.before
  /-- Once a call has told the shipment of an order, another event about the order tells the same
  shipment, and enters the ledger if it has an identifier. -/
  order : ∀ {envelope result again},
    earlier.decoded = .ok envelope → earlier.ending = .ok result →
    result.outcome ∈ [.created, .alreadyFulfilled] →
    later.decoded = .ok again → again.payload.orderId = envelope.payload.orderId →
    ¬ later.IsKnown again →
      ∃ shippingId, result.shippingId = some shippingId
        ∧ later.ending = .ok {
          outcome := .alreadyFulfilled
          eventId := again.eventId
          shippingId := some shippingId }
        ∧ later.sent = []
        ∧ later.after = { later.before with
          ledger := later.before.ledger ++ (later.ledgerRow? again).toList }
  /-- No row of a shipment or a ledger entry is changed or taken back between the calls. -/
  rows : earlier.after.Grows later.before

/-- A call outlasts every call that finds its rows. -/
theorem outlasts_of_grows
    {earlier later : Call}
    (former : Effect earlier)
    (latter : Effect later)
    (grows : earlier.after.Grows later.before) : Outlasts earlier later where
  event := by
    intro envelope result eventId again decoded ended _ identified redecoded same
    have recorded := former.enters decoded ended eventId identified
    have known : later.IsKnown again := ⟨eventId, same, grows.knows recorded⟩
    rw [← same]
    exact latter.duplicate_of_isKnown redecoded known
  order := by
    intro envelope result again decoded ended told redecoded same unknown
    obtain ⟨shipment, found, named⟩ := former.shipmentOfOrder? decoded ended (by simpa using told)
    have stillFound := grows.shipmentOfOrder? found
    rw [← same] at stillFound
    exact ⟨shipment.shippingId, named,
      latter.fulfilled_of_shipmentOfOrder? redecoded unknown stillFound⟩
  rows := grows

namespace Trace

variable {tables last : Tables} {calls : List Call}

/-- The rows at the beginning of a trace are there before and after each of its calls, and at the
end. -/
theorem grows (trace : Trace tables calls last) :
    tables.Grows last
      ∧ ∀ call ∈ calls, tables.Grows call.before ∧ call.before.Grows call.after
        ∧ call.after.Grows last := by
  induction trace with
  | nil tables => exact ⟨.refl tables, by simp⟩
  | @cons call calls last effect rest ih =>
      obtain ⟨toLast, others⟩ := ih
      refine ⟨effect.grows.trans toLast, ?_⟩
      intro other member
      rcases List.mem_cons.mp member with rfl | member
      · exact ⟨.refl _, effect.grows, toLast⟩
      · obtain ⟨toOther, within, fromOther⟩ := others other member
        exact ⟨effect.grows.trans toOther, within, fromOther⟩

/-- In a trace every call outlasts all later ones. -/
theorem outlasts (trace : Trace tables calls last) : calls.Pairwise Outlasts := by
  induction trace with
  | nil tables => exact .nil
  | @cons call calls last effect rest ih =>
      refine .cons ?_ ih
      intro later member
      have between := (rest.grows.2 later member).1
      exact outlasts_of_grows effect (rest.effect later member) between

end Trace

/-- In every run, from any tables and under any faults of the broker, a call settles its event and
its order for all later calls, however many others lie between.  The rows that a call finds or
leaves stay as they are to the end of the run. -/
theorem outlasts_run
    (service : Service)
    (tables : Tables)
    (retries : Int)
    (deliveries : List Delivery) :
    let (calls, last) := run retries deliveries (service.over tables)
    calls.Pairwise Outlasts
      ∧ tables.Grows last.store.committed
      ∧ ∀ call ∈ calls, tables.Grows call.before ∧ call.before.Grows call.after
        ∧ call.after.Grows last.store.committed := by
  obtain ⟨trace, -⟩ := trace_run retries deliveries (service.rests_over tables)
  exact ⟨trace.outlasts, trace.grows⟩

end Workflow
end Fulfilment
