import Fulfilment.Store.Session

/-!
# What the tables accept

A row is stored exactly when its keys are new, and a number is taken exactly when the next one
still fits into its counter.  Whatever is accepted is added at the end and leaves the rest.
-/

namespace Fulfilment

/-- Of two numbers that are set for a key in turn the second one counts. -/
theorem Counters.set_set
    (counters : Counters)
    (key : String)
    (first second : Int) : (counters.set key first).set key second = counters.set key second := by
  induction counters with
  | nil => simp [set]
  | cons head rest ih =>
      obtain ⟨other, old⟩ := head
      by_cases same : other = key
      · simp [set, same]
      · simp [set, same, ih]

namespace Tables

/-- The tables with one more shipment. -/
def withShipment
    (tables : Tables)
    (shipment : Shipment) : Tables :=
  { tables with shipments := tables.shipments ++ [shipment] }

/-- The tables with one more ledger entry, if there is one. -/
def withEntry
    (tables : Tables)
    (entry : Option LedgerEntry) : Tables :=
  { tables with ledger := tables.ledger ++ entry.toList }

/-- The tables once a number of a key was taken. -/
def withTaken
    (tables : Tables)
    (key : String)
    (sequence : Int) : Tables :=
  { tables with counters := tables.counters.set key (sequence + 1) }

/-- The number that a key is due. -/
def due
    (tables : Tables)
    (key : String) : Int :=
  (tables.counters.next? key).getD firstSequence

/-- An event is in the ledger. -/
def Knows
    (tables : Tables)
    (eventId : Uuid) : Prop :=
  ∃ entry ∈ tables.ledger, entry.eventId = eventId

/-- An order has a shipment. -/
def HasShipment
    (tables : Tables)
    (orderId : Uuid) : Prop :=
  ∃ shipment ∈ tables.shipments, shipment.orderId = orderId

/-- A shipping identifier is in use. -/
def Uses
    (tables : Tables)
    (shippingId : Uuid) : Prop :=
  ∃ shipment ∈ tables.shipments, shipment.shippingId = shippingId

/-- How many shipments an order has. -/
def shipmentsOf
    (tables : Tables)
    (orderId : Uuid) : Nat :=
  (tables.shipments.map Shipment.orderId).count orderId

instance (tables : Tables) (eventId : Uuid) : Decidable (tables.Knows eventId) :=
  inferInstanceAs (Decidable (∃ entry ∈ tables.ledger, entry.eventId = eventId))

instance (tables : Tables) (orderId : Uuid) : Decidable (tables.HasShipment orderId) :=
  inferInstanceAs (Decidable (∃ shipment ∈ tables.shipments, shipment.orderId = orderId))

instance (tables : Tables) (shippingId : Uuid) : Decidable (tables.Uses shippingId) :=
  inferInstanceAs (Decidable (∃ shipment ∈ tables.shipments, shipment.shippingId = shippingId))

/-- An order has a shipment exactly if it has at least one. -/
theorem hasShipment_iff_pos
    {tables : Tables}
    {orderId : Uuid} : tables.HasShipment orderId ↔ 0 < tables.shipmentsOf orderId := by
  simp [HasShipment, shipmentsOf, List.count_pos_iff]

/-- The ledger look-up finds exactly the events that are known. -/
theorem entry?_isSome_iff
    (tables : Tables)
    (eventId : Uuid) : (Option.isSome <| tables.entry? eventId) ↔ tables.Knows eventId := by
  simp [Knows, entry?]

/-- The look-up by order finds exactly the orders that have a shipment. -/
theorem isSome_shipmentOfOrder?
    (tables : Tables)
    (orderId : Uuid) : (tables.shipmentOfOrder? orderId).isSome ↔ tables.HasShipment orderId := by
  simp [shipmentOfOrder?, HasShipment]

/-- The look-up by order finds nothing exactly for the orders that have no shipment. -/
theorem shipmentOfOrder?_eq_none_iff
    {tables : Tables}
    {orderId : Uuid} : tables.shipmentOfOrder? orderId = none ↔ ¬ tables.HasShipment orderId := by
  rw [← isSome_shipmentOfOrder?, Option.not_isSome_iff_eq_none]

/-- A shipment that is found for an order is one of that order. -/
theorem hasShipment_of_shipmentOfOrder?
    {tables : Tables}
    {orderId : Uuid}
    {shipment : Shipment}
    (found : tables.shipmentOfOrder? orderId = some shipment) :
    shipment ∈ tables.shipments ∧ shipment.orderId = orderId :=
  ⟨List.mem_of_find?_eq_some found, by simpa using List.find?_some found⟩

/-- The look-up by identifier finds exactly the identifiers in use. -/
theorem isSome_shipment?
    (tables : Tables)
    (shippingId : Uuid) : (tables.shipment? shippingId).isSome ↔ tables.Uses shippingId := by
  simp [shipment?, Uses]

/-- A shipment is stored exactly when its identifier and its order are new. -/
theorem insertShipment_eq_ok_iff
    {tables after : Tables}
    {shipment : Shipment} :
    tables.insertShipment shipment = .ok after ↔
      ¬ tables.Uses shipment.shippingId ∧ ¬ tables.HasShipment shipment.orderId
        ∧ after = tables.withShipment shipment := by
  simp only [insertShipment, isSome_shipment?, isSome_shipmentOfOrder?]
  by_cases used : tables.Uses shipment.shippingId
  · simp [used]
  · by_cases shipped : tables.HasShipment shipment.orderId
    · simp [used, shipped]
    · simp [used, shipped, withShipment, @eq_comm _ after]

/-- A ledger entry is stored exactly when its event is new. -/
theorem insertEntry_eq_ok_iff
    {tables after : Tables}
    {entry : LedgerEntry} :
    tables.insertEntry entry = .ok after ↔
      ¬ tables.Knows entry.eventId ∧ after = tables.withEntry (some entry) := by
  simp only [insertEntry, entry?_isSome_iff]
  by_cases known : tables.Knows entry.eventId
  · simp [known]
  · simp [known, withEntry, @eq_comm _ after]

/-- The number that is due is taken, as long as the next one fits. -/
theorem allocate_eq
    (tables : Tables)
    (key : String) :
    tables.allocate key =
      if tables.due key < greatestCounter then
        .ok (tables.due key, tables.withTaken key (tables.due key))
      else .error .tooLarge := rfl

/-- A number is taken exactly when it is due and the next one fits. -/
theorem allocate_eq_ok_iff
    {tables after : Tables}
    {key : String}
    {sequence : Int} :
    tables.allocate key = .ok (sequence, after) ↔
      sequence = tables.due key ∧ sequence < greatestCounter
        ∧ after = tables.withTaken key sequence := by
  rw [allocate_eq]
  by_cases fits : tables.due key < greatestCounter
  · simp only [fits, if_true, Except.ok.injEq, Prod.mk.injEq]
    constructor
    · rintro ⟨rfl, rfl⟩
      exact ⟨rfl, fits, rfl⟩
    · rintro ⟨rfl, -, rfl⟩
      exact ⟨rfl, rfl⟩
  · simp only [fits, if_false, reduceCtorEq, false_iff]
    rintro ⟨rfl, smaller, -⟩
    exact fits smaller

/-- A key whose number was taken is due the next one. -/
@[simp]
theorem due_withTaken_same
    (tables : Tables)
    (key : String)
    (sequence : Int) : (tables.withTaken key sequence).due key = sequence + 1 := by
  simp [due, withTaken]

/-- Taking a number leaves what the other keys are due. -/
theorem due_withTaken_other
    {key other : String}
    (differs : other ≠ key)
    (tables : Tables)
    (sequence : Int) : (tables.withTaken key sequence).due other = tables.due other := by
  simp [due, withTaken, Counters.next?_set_other differs]

/-- An entry that is absent adds nothing. -/
@[simp]
theorem withEntry_none (tables : Tables) : tables.withEntry none = tables := by
  simp [withEntry]

/-- No two rows share a key that must be unique. -/
structure Unique (tables : Tables) : Prop where
  shippingIds : (tables.shipments.map Shipment.shippingId).Nodup
  orders : (tables.shipments.map Shipment.orderId).Nodup
  events : (tables.ledger.map LedgerEntry.eventId).Nodup

/-- An order has at most one shipment if the keys are unique. -/
theorem Unique.shipmentsOf_le_one
    {tables : Tables}
    (unique : tables.Unique)
    (orderId : Uuid) : tables.shipmentsOf orderId ≤ 1 :=
  List.nodup_iff_count.mp unique.orders orderId

/-- A key that no row has can be added. -/
theorem nodup_map_append
    {rows : List Row}
    {key : Row → Key}
    {row : Row}
    (nodup : (rows.map key).Nodup)
    (new : ¬ ∃ other ∈ rows, key other = key row) : ((rows ++ [row]).map key).Nodup := by
  rw [List.map_append, List.map_singleton, List.nodup_append]
  refine ⟨nodup, by simp, ?_⟩
  intro left leftMember right rightMember equal
  obtain ⟨other, member, rfl⟩ := List.mem_map.mp leftMember
  rw [List.mem_singleton.mp rightMember] at equal
  exact new ⟨other, member, equal⟩

/-- A new shipment keeps the keys unique. -/
theorem Unique.withShipment
    {tables : Tables}
    {shipment : Shipment}
    (unique : tables.Unique)
    (unused : ¬ tables.Uses shipment.shippingId)
    (unshipped : ¬ tables.HasShipment shipment.orderId) :
    (tables.withShipment shipment).Unique where
  shippingIds := nodup_map_append unique.shippingIds unused
  orders := nodup_map_append unique.orders unshipped
  events := unique.events

/-- A new ledger entry keeps the keys unique. -/
theorem Unique.withEntry
    {tables : Tables}
    {entry : Option LedgerEntry}
    (unique : tables.Unique)
    (unknown : ∀ new ∈ entry, ¬ tables.Knows new.eventId) :
    (tables.withEntry entry).Unique where
  shippingIds := unique.shippingIds
  orders := unique.orders
  events := by
    cases entry with
    | none => simpa using unique.events
    | some new => exact nodup_map_append unique.events (unknown new rfl)

/-- A taken number keeps the keys unique. -/
theorem Unique.withTaken
    {tables : Tables}
    (unique : tables.Unique)
    (key : String)
    (sequence : Int) : (tables.withTaken key sequence).Unique :=
  ⟨unique.shippingIds, unique.orders, unique.events⟩

end Tables
end Fulfilment
