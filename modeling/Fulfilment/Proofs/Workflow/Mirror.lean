import Fulfilment.Proofs.Event.Accepted
import Fulfilment.Proofs.Workflow.Firsts
import Fulfilment.Proofs.Workflow.Undisturbed

/-!
# Tables as a mirror of the orders

If nothing disturbs them, calls leave tables that are a function of the orders in their bodies, but
for identifiers and times.  The first event about an order makes the shipment, in the order of
these first events; a shipment's number counts the earlier shipments of its key; and the ledger
holds the events of all orders.
-/

namespace Fulfilment

/-- An event is known once it is entered, and otherwise as before. -/
theorem Tables.knows_withEntry
    {tables : Tables}
    {entry : Option LedgerEntry}
    {eventId : Uuid} :
    (tables.withEntry entry).Knows eventId ↔
      tables.Knows eventId ∨ ∃ new ∈ entry, new.eventId = eventId := by
  simp [Knows, withEntry, or_and_right, exists_or]

/-- The settings give a producer and every column of a shipment. -/
structure Settings.Complete (settings : Settings) : Prop where
  named : settings.serviceName.isSome = true
  method : settings.shippingMethod.isSome = true
  carrier : settings.carrier.isSome = true

/-- The identifiers that were issued and so many more differ from each other. -/
def Service.IssuesOnce
    (service : Service)
    (more : Nat) : Prop :=
  ∀ first second, 0 < first → first < second → second ≤ service.issued + more →
    service.identifier first ≠ service.identifier second

namespace Workflow

open Fulfilment.Service

/-- The completed order in a body, if it is one. -/
def orderIn? (body : Option Bytes) : Option (Envelope OrderCompleted) :=
  match Event.decodeOrderCompleted body with
  | .ok order => some order
  | .error _ => none

/-- The orders in bodies; bodies that are no completed orders are passed over. -/
def ordersIn (bodies : List (Option Bytes)) : List (Envelope OrderCompleted) :=
  bodies.filterMap orderIn?

/-- Events with the same identifier are about the same order. -/
def Consistent (orders : List (Envelope OrderCompleted)) : Prop :=
  ∀ first ∈ orders, ∀ second ∈ orders, ∀ eventId,
    first.eventId = some eventId → second.eventId = some eventId → first.orderId = second.orderId

/-- Tables and messages as they are once shipments were made for some orders and some events were
entered, and nothing else was done. -/
structure Mirrors
    (settings : Settings)
    (shipped : List (Envelope OrderCompleted))
    (entered : List Uuid)
    (tables : Tables)
    (sent : List Message) : Prop where
  unique : tables.Unique
  shipments : tables.shipments.map Shipment.goods = shipped.map (Envelope.goods settings)
  ledger : ∀ eventId, tables.Knows eventId ↔ eventId ∈ entered
  names : ∀ entry ∈ tables.ledger, entry.eventName = EventType.orderCompleted.name
  keys : (tables.counters.map Prod.fst).Nodup
  counters : ∀ key, tables.counters.next? key =
    if shipped.countP (fun order => order.resolvedKey = key) = 0 then none
    else some (1 + shipped.countP fun order => order.resolvedKey = key)
  taken : tables.counters.taken = shipped.length
  acknowledged : sent.countP Message.acknowledged = shipped.length
  announcements : (Message.announcements sent).map Envelope.told = numbered shipped

namespace Mirrors

variable
  {settings : Settings}
  {shipped : List (Envelope OrderCompleted)}
  {entered : List Uuid}
  {tables : Tables}
  {sent : List Message}

theorem nil (settings : Settings) : Mirrors settings [] [] {} [] where
  unique := ⟨List.nodup_nil, List.nodup_nil, List.nodup_nil⟩
  shipments := rfl
  ledger := by simp [Tables.Knows]
  names := by simp
  keys := List.nodup_nil
  counters _ := rfl
  taken := rfl
  acknowledged := rfl
  announcements := rfl

theorem orderIds (mirrors : Mirrors settings shipped entered tables sent) :
    tables.shipments.map Shipment.orderId = shipped.map Envelope.orderId := by
  have goods := congrArg (List.map Goods.orderId) mirrors.shipments
  rw [List.map_map, List.map_map] at goods
  exact goods

theorem hasShipment_iff
    {orderId : Uuid}
    (mirrors : Mirrors settings shipped entered tables sent) :
    tables.HasShipment orderId ↔ orderId ∈ shipped.map Envelope.orderId := by
  rw [← mirrors.orderIds, List.mem_map]
  rfl

/-- A key is due the number after those of its shipments. -/
theorem due
    (mirrors : Mirrors settings shipped entered tables sent)
    (key : String) :
    tables.due key = 1 + shipped.countP fun order => order.resolvedKey = key := by
  rw [Tables.due, mirrors.counters]
  split
  · next none =>
      rw [none]
      rfl
  · rfl

/-- The number that is due fits as long as there are few shipments. -/
theorem due_bounds
    (mirrors : Mirrors settings shipped entered tables sent)
    (few : shipped.length < 2 ^ 62)
    (key : String) : 0 ≤ tables.due key ∧ tables.due key < Tables.greatestCounter := by
  have bound : shipped.countP (fun order => order.resolvedKey = key) ≤ shipped.length :=
    List.countP_le_length
  rw [mirrors.due key, Tables.greatestCounter]
  omega

/-- Only the set of the events counts. -/
theorem of_entered_iff
    {others : List Uuid}
    (mirrors : Mirrors settings shipped entered tables sent)
    (same : ∀ eventId, eventId ∈ entered ↔ eventId ∈ others) :
    Mirrors settings shipped others tables sent :=
  { mirrors with ledger := fun eventId => (mirrors.ledger eventId).trans (same eventId) }

/-- A new event is entered. -/
theorem withEntry
    {entry : Option LedgerEntry}
    (mirrors : Mirrors settings shipped entered tables sent)
    (new : ∀ row ∈ entry, ¬ tables.Knows row.eventId)
    (named : ∀ row ∈ entry, row.eventName = EventType.orderCompleted.name) :
    Mirrors settings shipped (entered ++ entry.toList.map LedgerEntry.eventId)
      (tables.withEntry entry) sent :=
  { mirrors with
    unique := mirrors.unique.withEntry new
    ledger := by
      intro eventId
      rw [Tables.knows_withEntry, mirrors.ledger, List.mem_append, List.mem_map]
      simp
    names := by
      intro row member
      rcases List.mem_append.mp member with member | member
      · exact mirrors.names row member
      · exact named row (Option.mem_toList.mp member) }

/-- A shipment is made for an order, under the number that its key is due, and announced. -/
theorem withShipment
    {order : Envelope OrderCompleted}
    {shipment : Shipment}
    {message : Message}
    {event : Envelope ShippingCreated}
    (mirrors : Mirrors settings shipped entered tables sent)
    (unused : ¬ tables.Uses shipment.shippingId)
    (unshipped : ¬ tables.HasShipment order.orderId)
    (goods : shipment.goods = order.goods settings)
    (acknowledged : message.acknowledged = true)
    (announced : message.announcement? = some event)
    (told : event.told =
      ⟨order.orderId, order.payload.userId, order.resolvedKey,
        some (tables.due order.resolvedKey)⟩) :
    Mirrors settings (shipped ++ [order]) entered
      ((tables.withShipment shipment).withTaken order.resolvedKey (tables.due order.resolvedKey))
      (sent ++ [message]) where
  unique := by
    have about : shipment.orderId = order.orderId := congrArg Goods.orderId goods
    exact (mirrors.unique.withShipment unused (about ▸ unshipped)).withTaken _ _
  shipments := by
    simp only [Tables.withTaken, Tables.withShipment, List.map_append, mirrors.shipments,
      List.map_singleton, goods]
  ledger := mirrors.ledger
  names := mirrors.names
  keys := Counters.nodup_keys_set mirrors.keys _ _
  counters := by
    intro key
    have due := mirrors.due order.resolvedKey
    by_cases same : order.resolvedKey = key
    · subst same
      simp only [Tables.withTaken, Tables.withShipment, Counters.next?_set_same,
        List.countP_append, List.countP_singleton, decide_true, if_true, Nat.succ_ne_zero,
        if_false, due]
      simp [Int.add_assoc]
    · have other : key ≠ order.resolvedKey := fun equal => same equal.symm
      simp only [Tables.withTaken, Tables.withShipment, Counters.next?_set_other other,
        mirrors.counters key, List.countP_append, List.countP_singleton, same, decide_false,
        Bool.false_eq_true, if_false, Nat.add_zero]
  taken := by
    have due : (tables.counters.next? order.resolvedKey).getD Tables.firstSequence =
      tables.due order.resolvedKey := rfl
    simp only [Tables.withTaken, Tables.withShipment, Counters.taken_set, mirrors.taken, due,
      List.length_append, List.length_singleton]
    omega
  acknowledged := by
    simp [List.countP_append, mirrors.acknowledged, acknowledged]
  announcements := by
    rw [Message.announcements_append, List.map_append, mirrors.announcements, numbered_concat,
      countP_numbered]
    simp [Message.announcements, announced, told, mirrors.due]

end Mirrors

/-- The events of orders, as far as they have identifiers. -/
def eventIds (orders : List (Envelope OrderCompleted)) : List Uuid :=
  orders.filterMap Envelope.eventId

theorem mem_eventIds
    {orders : List (Envelope OrderCompleted)}
    {eventId : Uuid} :
    eventId ∈ eventIds orders ↔ ∃ order ∈ orders, order.eventId = some eventId :=
  List.mem_filterMap

/-- A completed order that was decoded has the name of its type. -/
theorem eventName_of_decodeOrderCompleted
    {body : Option Bytes}
    {order : Envelope OrderCompleted}
    (decoded : Event.decodeOrderCompleted body = .ok order) :
    order.eventName = EventType.orderCompleted.name := by
  unfold Event.decodeOrderCompleted at decoded
  split at decoded
  · next envelope read =>
      cases decoded
      exact (Event.isTyped_of_decode read).1.1
  · cases decoded
  · cases decoded

section Step

variable
  {task : Task}
  {orders : List (Envelope OrderCompleted)}
  {tables : Tables}
  {sent : List Message}
  {plan : Plan}

/-- The order of a known event is one of an earlier event. -/
theorem mem_orderIds_of_isKnown
    (mirrors : Mirrors task.settings (firsts orders) (eventIds orders) tables sent)
    (consistent : Consistent (orders ++ [task.envelope]))
    (known : task.IsKnown tables) : task.envelope.orderId ∈ orders.map Envelope.orderId := by
  obtain ⟨eventId, identified, known⟩ := known
  obtain ⟨earlier, member, same⟩ := mem_eventIds.mp ((mirrors.ledger eventId).mp known)
  refine List.mem_map.mpr ⟨earlier, member, ?_⟩
  exact consistent earlier (List.mem_append_left _ member) task.envelope (by simp) eventId same
    identified

/-- Entering the event of a task adds it to the events, if it has an identifier. -/
theorem eventIds_concat (entry : Option LedgerEntry) (own : entry = task.ledgerRow?) :
    eventIds (orders ++ [task.envelope]) =
      eventIds orders ++ entry.toList.map LedgerEntry.eventId := by
  subst own
  cases identified : task.envelope.eventId <;>
    simp [eventIds, Task.ledgerRow?, identified]

theorem named_ledgerRow?
    (named : task.envelope.eventName = EventType.orderCompleted.name) :
    ∀ row ∈ task.ledgerRow?, row.eventName = EventType.orderCompleted.name := by
  intro row member
  obtain ⟨eventId, -, rfl⟩ := Option.map_eq_some_iff.mp member
  exact named

theorem new_ledgerRow?
    (unknown : ¬ task.IsKnown tables) : ∀ row ∈ task.ledgerRow?, ¬ tables.Knows row.eventId := by
  intro row member known
  obtain ⟨eventId, identified, rfl⟩ := Option.map_eq_some_iff.mp member
  exact unknown ⟨eventId, identified, known⟩

/-- Carrying out the plan of an order adds the order to the mirror. -/
theorem Mirrors.after
    (mirrors : Mirrors task.settings (firsts orders) (eventIds orders) tables sent)
    (consistent : Consistent (orders ++ [task.envelope]))
    (named : task.envelope.eventName = EventType.orderCompleted.name)
    (planned : task.plan tables = .ok plan) :
    Mirrors task.settings (firsts (orders ++ [task.envelope]))
      (eventIds (orders ++ [task.envelope])) (plan.after tables) (sent ++ plan.sent task) := by
  have justified := Task.justified_of_plan planned
  cases plan with
  | duplicate =>
      have known : task.IsKnown tables := justified
      have seen := mem_orderIds_of_isKnown mirrors consistent known
      rw [firsts_concat_of_mem seen, Plan.after, Plan.sent, List.append_nil]
      refine mirrors.of_entered_iff fun eventId => ?_
      rw [eventIds, eventIds, List.filterMap_append, List.mem_append, or_iff_left_of_imp]
      intro own
      obtain ⟨itself, identified, known⟩ := known
      have same : task.envelope.eventId = some eventId := by simpa using own
      cases Option.mem_unique identified same
      exact (mirrors.ledger eventId).mp known
  | fulfilled shipment next =>
      obtain ⟨unknown, found, rfl⟩ := justified
      have seen := mem_orderIds_firsts.mp (mirrors.hasShipment_iff.mp
        ⟨shipment, Tables.hasShipment_of_shipmentOfOrder? found⟩)
      rw [firsts_concat_of_mem seen, Plan.sent, List.append_nil, eventIds_concat _ rfl]
      exact mirrors.withEntry (new_ledgerRow? unknown) (named_ledgerRow? named)
  | created shipment sequence event next =>
      obtain ⟨unknown, unshipped, unused, complete, rfl, fits, sound, rfl⟩ := justified
      have new : task.envelope.orderId ∉ orders.map Envelope.orderId := fun seen =>
        unshipped (mirrors.hasShipment_iff.mpr (mem_orderIds_firsts.mpr seen))
      obtain ⟨identifier, order, user, address, method, carrier, -⟩ :=
        Task.eq_of_shipment_eq_ok complete
      have tells := Task.tells_of_outbound sound
      obtain ⟨producer, number, -, -, made⟩ := Task.eq_of_outbound_eq_ok sound
      have goods : shipment.goods = task.envelope.goods task.settings := by
        simp only [Shipment.goods, Envelope.goods, Envelope.orderId, order, user, address, method,
          carrier]
      have told : event.told = ⟨task.envelope.orderId, task.envelope.payload.userId,
          task.envelope.resolvedKey, some (tables.due task.envelope.resolvedKey)⟩ := by
        have about : event.payload.userId = shipment.userId := by
          rw [made]
          rfl
        simp only [Envelope.told, tells.aboutOrder, order, about, user, tells.partitionKey,
          tells.number, Envelope.orderId]
      rw [← identifier] at unused
      rw [firsts_concat_of_not_mem new, eventIds_concat _ rfl]
      have fresh : ∀ row ∈ task.ledgerRow?, ¬ ((tables.withShipment shipment).withTaken
          task.envelope.resolvedKey (tables.due task.envelope.resolvedKey)).Knows row.eventId :=
        new_ledgerRow? unknown
      exact (mirrors.withShipment unused unshipped goods rfl tells.announced told).withEntry fresh
        (named_ledgerRow? named)

end Step

/-! ## Runs -/

/-- A service at rest that mirrors some orders.  Shipments have identifiers that it has issued. -/
structure Tracks
    (service : Service)
    (orders : List (Envelope OrderCompleted))
    (tables : Tables) : Prop where
  rests : service.Rests tables
  mirrors : Mirrors service.settings (firsts orders) (eventIds orders) tables service.broker.sent
  stored : ∀ shipment ∈ tables.shipments, ∃ index, 0 < index ∧ index ≤ service.issued
    ∧ shipment.shippingId = service.identifier index

/-- What a call leaves for the calls after it. -/
structure Resumes
    (before : Service)
    (more : Nat)
    (after : Service) : Prop where
  settings : after.settings = before.settings
  identifier : after.identifier = before.identifier
  issued : after.issued ≤ before.issued + more

theorem Resumes.issuesOnce
    {before after : Service}
    {more later : Nat}
    (resumes : Resumes before more after)
    (once : before.IssuesOnce (more + later)) : after.IssuesOnce later := by
  intro first second positive less bound
  have issued := resumes.issued
  rw [resumes.identifier]
  exact once first second positive less (by omega)

section Run

variable
  {service : Service}
  {orders : List (Envelope OrderCompleted)}
  {tables : Tables}
  {delivery : Delivery}

/-- A service that tracks orders provides for the next one. -/
theorem Tracks.provided
    (tracks : Tracks service orders tables)
    (complete : service.settings.Complete)
    (once : service.IssuesOnce 2)
    (few : orders.length < 2 ^ 62)
    (order : Envelope OrderCompleted) :
    ((facing service delivery).task order).Provided tables := by
  obtain ⟨nonnegative, fits⟩ := tracks.mirrors.due_bounds
    (Nat.lt_of_le_of_lt (length_firsts_le orders) few) order.resolvedKey
  refine ⟨complete.named, complete.method, complete.carrier, ?_, nonnegative, fits⟩
  rintro ⟨shipment, member, same⟩
  obtain ⟨index, positive, issued, about⟩ := tracks.stored shipment member
  exact once index (service.issued + 1) positive (by omega) (by omega) (about.symm.trans same)

/-- A call about an order adds it to what a service tracks. -/
theorem Tracks.deliver_order
    {order : Envelope OrderCompleted}
    (tracks : Tracks service orders tables)
    (retries : Int)
    (complete : service.settings.Complete)
    (once : service.IssuesOnce 2)
    (few : orders.length < 2 ^ 62)
    (consistent : Consistent (orders ++ [order]))
    (faultless : delivery.IsFaultless)
    (decoded : Event.decodeOrderCompleted delivery.body = .ok order) :
    ∃ next, Tracks (deliver retries delivery service).2 (orders ++ [order]) next
      ∧ Resumes service 2 (deliver retries delivery service).2 := by
  have facingRests : (facing service delivery).Rests tables :=
    ⟨tracks.rests.store, tracks.rests.faults⟩
  have provided : ((facing service delivery).task order).Provided tables :=
    tracks.provided complete once few order
  obtain ⟨plan, planned⟩ := provided.exists_plan
  obtain ⟨-, continues, issued⟩ :=
    perform_deliver_of_plan retries tracks.rests faultless decoded planned
  have mirrors := @Mirrors.after ((facing service delivery).task order) _ _ _ _ tracks.mirrors
    consistent (eventName_of_decodeOrderCompleted decoded) planned
  have taken : plan.identifiers ≤ 2 := by cases plan <;> simp [Plan.identifiers]
  refine ⟨plan.after tables, ⟨continues.rests, ?_, ?_⟩, continues.settings, continues.identifier,
    by omega⟩
  · rw [continues.settings, continues.sent]
    exact mirrors
  · intro shipment member
    have justified := Task.justified_of_plan planned
    rw [continues.identifier, issued]
    have kept (member : shipment ∈ tables.shipments) :
        ∃ index, 0 < index ∧ index ≤ service.issued + plan.identifiers
          ∧ shipment.shippingId = service.identifier index := by
      obtain ⟨index, positive, bound, about⟩ := tracks.stored shipment member
      exact ⟨index, positive, by omega, about⟩
    cases plan with
    | duplicate => exact kept member
    | fulfilled _ next =>
        obtain ⟨-, -, rfl⟩ := justified
        exact kept member
    | created made sequence event next =>
        obtain ⟨-, -, -, complete, -, -, -, rfl⟩ := justified
        rcases List.mem_append.mp member with member | member
        · exact kept member
        · obtain ⟨identifier, -⟩ := Task.eq_of_shipment_eq_ok complete
          rw [List.mem_singleton.mp member]
          exact ⟨service.issued + 1, by omega, by simp [Plan.identifiers], identifier⟩

/-- A call about a body that is no order adds nothing to what a service tracks. -/
theorem Tracks.deliver_other
    {error : DecodeError}
    (tracks : Tracks service orders tables)
    (retries : Int)
    (decoded : Event.decodeOrderCompleted delivery.body = .error error) :
    Tracks (deliver retries delivery service).2 orders tables
      ∧ Resumes service 2 (deliver retries delivery service).2 := by
  obtain ⟨continues, issued⟩ := perform_deliver_of_error retries tracks.rests decoded
  refine ⟨⟨continues.rests, ?_, ?_⟩, continues.settings, continues.identifier, by omega⟩
  · rw [continues.settings, continues.sent, List.append_nil]
    exact tracks.mirrors
  · rw [continues.identifier, issued]
    exact tracks.stored

/-- Consistent orders are consistent in part. -/
theorem Consistent.of_subset
    {others : List (Envelope OrderCompleted)}
    (consistent : Consistent others)
    (inside : orders ⊆ others) : Consistent orders :=
  fun first firstMember second secondMember =>
    consistent first (inside firstMember) second (inside secondMember)

/-- A run that nothing disturbs tracks all of its orders. -/
theorem Tracks.run
    (tracks : Tracks service orders tables)
    (retries : Int)
    (deliveries : List Delivery)
    (complete : service.settings.Complete)
    (once : service.IssuesOnce (2 * deliveries.length))
    (few : orders.length + deliveries.length < 2 ^ 62)
    (faultless : ∀ delivery ∈ deliveries, delivery.IsFaultless)
    (consistent : Consistent (orders ++ ordersIn (deliveries.map Delivery.body))) :
    ∃ last, Tracks (run retries deliveries service).2
        (orders ++ ordersIn (deliveries.map Delivery.body)) last
      ∧ (Workflow.run retries deliveries service).2.settings = service.settings := by
  induction deliveries generalizing service orders tables with
  | nil => exact ⟨tables, by simpa [ordersIn, Workflow.run] using tracks, rfl⟩
  | cons delivery deliveries ih =>
      have once : service.IssuesOnce (2 + 2 * deliveries.length) := by
        have same : 2 + 2 * deliveries.length = 2 * (delivery :: deliveries).length := by
          rw [List.length_cons]
          omega
        rw [same]
        exact once
      have onceNow : service.IssuesOnce 2 := fun first second positive less bound =>
        once first second positive less (by omega)
      simp only [List.length_cons] at few
      cases decoded : Event.decodeOrderCompleted delivery.body with
      | ok order =>
          have split : orders ++ ordersIn ((delivery :: deliveries).map Delivery.body) =
              orders ++ [order] ++ ordersIn (deliveries.map Delivery.body) := by
            simp [ordersIn, orderIn?, decoded]
          rw [split] at consistent ⊢
          obtain ⟨next, tracks, resumes⟩ := tracks.deliver_order retries complete onceNow
            (by omega) (consistent.of_subset (List.subset_append_left _ _))
            (faultless delivery (.head _)) decoded
          obtain ⟨last, tracks, settings⟩ := ih tracks (resumes.settings ▸ complete)
            (resumes.issuesOnce once) (by simp; omega)
            (fun other member => faultless other (.tail _ member)) consistent
          exact ⟨last, tracks, settings.trans resumes.settings⟩
      | error error =>
          have split : orders ++ ordersIn ((delivery :: deliveries).map Delivery.body) =
              orders ++ ordersIn (deliveries.map Delivery.body) := by
            simp [ordersIn, orderIn?, decoded]
          rw [split] at consistent ⊢
          obtain ⟨tracks, resumes⟩ := tracks.deliver_other retries decoded
          obtain ⟨last, tracks, settings⟩ := ih tracks (resumes.settings ▸ complete)
            (resumes.issuesOnce once) (by omega)
            (fun other member => faultless other (.tail _ member)) consistent
          exact ⟨last, tracks, settings.trans resumes.settings⟩

/-- A service over empty tables tracks no orders. -/
theorem tracks_over (service : Service) : Tracks (service.over {}) [] {} where
  rests := service.rests_over {}
  mirrors := .nil _
  stored := by simp

end Run

end Workflow
end Fulfilment
