import Fulfilment.Event.Envelope
import Fulfilment.Failure

/-!
# Tables

The rows that the service keeps: at most one shipment per order, one ledger entry per event acted
upon, and for each partition key the next sequence number.
-/

namespace Fulfilment

/-- A stored shipment.  Stored times are wall clocks. -/
structure Shipment where
  shippingId : Uuid
  orderId : Uuid
  userId : Uuid
  address : Address
  shippingMethod : String
  carrier : String
  createdAt : WallClock
deriving DecidableEq, Repr

/-- A ledger entry: an event that was acted upon. -/
structure LedgerEntry where
  eventId : Uuid
  eventName : String
  processedAt : WallClock
deriving DecidableEq, Repr

/-- A shipment to be stored, whose parts may be absent. -/
structure ShipmentDraft where
  orderId : Option Uuid
  userId : Option Uuid
  address : Address
  shippingMethod : Option String
  carrier : Option String
  createdAt : Option WallClock
deriving DecidableEq, Repr

/-- A ledger entry to be stored, whose parts may be absent. -/
structure LedgerDraft where
  eventId : Option Uuid
  eventName : Option String
  processedAt : Option WallClock
deriving DecidableEq, Repr

/-- The next sequence number of each partition key that has one. -/
abbrev Counters := List (String × Int)

namespace Counters

/-- The next sequence number of a key. -/
def next?
    (counters : Counters)
    (key : String) : Option Int :=
  counters.lookup key

/-- Set the next sequence number of a key. -/
def set : Counters → String → Int → Counters
  | [], key, value => [(key, value)]
  | (other, old) :: rest, key, value =>
      if other = key then (key, value) :: rest else (other, old) :: set rest key value

/-- Setting a key decides what is next for it. -/
@[simp]
theorem next?_set_same
    (counters : Counters)
    (key : String)
    (value : Int) :
    (counters.set key value).next? key = some value := by
  induction counters with
  | nil => simp [set, next?]
  | cons head rest ih =>
      obtain ⟨other, old⟩ := head
      by_cases same : other = key
      · simp [set, next?, same]
      · have differs : (key == other) = false := by
          simpa using fun equal : key = other => same equal.symm
        simp only [next?] at ih
        simp [set, next?, same, List.lookup_cons, differs, ih]

/-- Setting a key leaves the other keys alone. -/
theorem next?_set_other
    {key other : String}
    (differs : other ≠ key)
    (counters : Counters)
    (value : Int) :
    (counters.set key value).next? other = counters.next? other := by
  induction counters with
  | nil =>
      have : (other == key) = false := by simpa using differs
      simp [set, next?, List.lookup_cons, this]
  | cons head rest ih =>
      obtain ⟨name, old⟩ := head
      by_cases same : name = key
      · have : (other == key) = false := by simpa using differs
        simp [set, next?, same, List.lookup_cons, this]
      · simp only [next?] at ih
        simp [set, next?, same, List.lookup_cons, ih]

end Counters

/-- The rows of the store. -/
structure Tables where
  shipments : List Shipment := []
  ledger : List LedgerEntry := []
  counters : Counters := []
deriving DecidableEq, Repr

namespace Tables

/-- The column of a shipment. -/
def shipmentColumn (name : String) : Column := ⟨"shipments", name⟩

/-- The column of a ledger entry. -/
def ledgerColumn (name : String) : Column := ⟨"processed_events", name⟩

/-- A value that must be given for a column. -/
def given
    (column : Column)
    (value : Option α) : Except StoreError α :=
  match value with
  | some value => .ok value
  | none => .error (.absent column)

/-- The complete row of a shipment draft, or the first column that lacks its value. -/
def completeShipment
    (shippingId : Uuid)
    (draft : ShipmentDraft) : Except StoreError Shipment := do
  let orderId ← given (shipmentColumn "order_id") draft.orderId
  let userId ← given (shipmentColumn "user_id") draft.userId
  let shippingMethod ← given (shipmentColumn "shipping_method") draft.shippingMethod
  let carrier ← given (shipmentColumn "carrier") draft.carrier
  let createdAt ← given (shipmentColumn "created_at") draft.createdAt
  return ⟨shippingId, orderId, userId, draft.address, shippingMethod, carrier, createdAt⟩

/-- The complete row of a ledger draft, or the first column that lacks its value. -/
def completeEntry (draft : LedgerDraft) : Except StoreError LedgerEntry := do
  let eventId ← given (ledgerColumn "event_id") draft.eventId
  let eventName ← given (ledgerColumn "event_name") draft.eventName
  let processedAt ← given (ledgerColumn "processed_at") draft.processedAt
  return ⟨eventId, eventName, processedAt⟩

/-- The ledger entry of an event. -/
def entry?
    (tables : Tables)
    (eventId : Uuid) : Option LedgerEntry :=
  tables.ledger.find? fun entry => entry.eventId = eventId

/-- The shipment of an identifier. -/
def shipment?
    (tables : Tables)
    (shippingId : Uuid) : Option Shipment :=
  tables.shipments.find? fun shipment => shipment.shippingId = shippingId

/-- The shipment of an order. -/
def shipmentOfOrder?
    (tables : Tables)
    (orderId : Uuid) : Option Shipment :=
  tables.shipments.find? fun shipment => shipment.orderId = orderId

/-- Add a shipment whose identifier and order are new. -/
def insertShipment
    (tables : Tables)
    (shipment : Shipment) : Except StoreError Tables :=
  if (tables.shipment? shipment.shippingId).isSome then
    .error (.taken (shipmentColumn "shipping_id"))
  else if (tables.shipmentOfOrder? shipment.orderId).isSome then
    .error (.taken (shipmentColumn "order_id"))
  else .ok { tables with shipments := tables.shipments ++ [shipment] }

/-- Add a ledger entry whose event is new. -/
def insertEntry
    (tables : Tables)
    (entry : LedgerEntry) : Except StoreError Tables :=
  if Option.isSome <| tables.entry? entry.eventId then .error (.taken (ledgerColumn "event_id"))
  else .ok { tables with ledger := tables.ledger ++ [entry] }

/-- The first number of a key without a counter. -/
def firstSequence : Int := 1

/-- The greatest number that a counter holds. -/
def greatestCounter : Int := 0x7fffffffffffffff

/-- The least number that a counter holds. -/
def leastCounter : Int := -0x8000000000000000

/-- Tables that hold nothing but counters, if all of their numbers fit. -/
def ofCounters (counters : Counters) : Except StoreError Tables :=
  if counters.all fun counter => leastCounter ≤ counter.2 && counter.2 ≤ greatestCounter then
    .ok { counters }
  else .error .tooLarge

/-- The number that a key is due, and the tables after it is taken. -/
def allocate
    (tables : Tables)
    (key : String) : Except StoreError (Int × Tables) :=
  let current := (tables.counters.next? key).getD firstSequence
  if current < greatestCounter then
    .ok (current, { tables with counters := tables.counters.set key (current + 1) })
  else .error .tooLarge

/-- The rows in the order of their keys. -/
def sorted (tables : Tables) : Tables where
  shipments := tables.shipments.mergeSort fun left right => left.shippingId.le right.shippingId
  ledger := tables.ledger.mergeSort fun left right => left.eventId.le right.eventId
  counters := tables.counters.mergeSort fun left right => decide (left.1 ≤ right.1)

end Tables

end Fulfilment
