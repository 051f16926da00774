import Fulfilment.Proofs.Broker.Announcement
import Fulfilment.Workflow
import Mathlib.Algebra.Ring.Int.Defs
import Mathlib.Algebra.Ring.Nat
import Mathlib.Data.List.Basic
import Mathlib.Data.List.Count
import Mathlib.Data.List.Induction

/-!
# First events

The first event about an order is the one that makes its shipment, and its number counts the earlier
shipments of its key.  Both are functions of the orders in the bodies alone.  A counter that began
at the first number tells how many numbers were taken.
-/

namespace Fulfilment

/-- The order that a completed order is about. -/
def Envelope.orderId (envelope : Envelope OrderCompleted) : Uuid :=
  envelope.payload.orderId

/-- A shipment without its identifier and its time. -/
structure Goods where
  orderId : Uuid
  userId : Uuid
  address : Address
  shippingMethod : Option String
  carrier : Option String
deriving DecidableEq, Repr

/-- What is shipped. -/
def Shipment.goods (shipment : Shipment) : Goods where
  orderId := shipment.orderId
  userId := shipment.userId
  address := shipment.address
  shippingMethod := some shipment.shippingMethod
  carrier := some shipment.carrier

/-- What is to be shipped for an order. -/
def Envelope.goods
    (settings : Settings)
    (envelope : Envelope OrderCompleted) : Goods where
  orderId := envelope.orderId
  userId := envelope.payload.userId
  address := Workflow.warehouse
  shippingMethod := settings.shippingMethod
  carrier := settings.carrier

/-- What the broker is told of a shipment, without identifiers and times. -/
structure Told where
  orderId : Uuid
  userId : Uuid
  partitionKey : String
  number : Option Int
deriving DecidableEq, Repr

/-- What an event about a shipment tells. -/
def Envelope.told (event : Envelope ShippingCreated) : Told where
  orderId := event.payload.orderId
  userId := event.payload.userId
  partitionKey := event.partitionKey
  number := event.number?

namespace Workflow

/-! ## First events -/

/-- The events that are the first about their orders. -/
def firsts (orders : List (Envelope OrderCompleted)) : List (Envelope OrderCompleted) :=
  orders.foldl
    (fun earlier order =>
      if order.orderId ∈ earlier.map Envelope.orderId then earlier else earlier ++ [order])
    []

variable {orders : List (Envelope OrderCompleted)} {order : Envelope OrderCompleted}

theorem mem_orderIds_firsts {orderId : Uuid} :
    orderId ∈ (firsts orders).map Envelope.orderId ↔ orderId ∈ orders.map Envelope.orderId := by
  induction orders using List.reverseRecOn with
  | nil => rfl
  | append_singleton orders order ih =>
      simp only [firsts, List.foldl_append, List.foldl_cons, List.foldl_nil] at ih ⊢
      split
      · next seen =>
          rw [ih, List.map_append, List.mem_append, List.map_singleton, List.mem_singleton]
          refine ⟨.inl, fun found => found.elim id ?_⟩
          rintro rfl
          exact ih.mp seen
      · simp only [List.map_append, List.mem_append, ih]

/-- Another event is a first one if its order is new. -/
theorem firsts_concat :
    firsts (orders ++ [order]) =
      if order.orderId ∈ orders.map Envelope.orderId then firsts orders
      else firsts orders ++ [order] := by
  rw [firsts, List.foldl_append, List.foldl_cons, List.foldl_nil]
  exact if_congr mem_orderIds_firsts rfl rfl

theorem firsts_concat_of_mem
    (seen : order.orderId ∈ orders.map Envelope.orderId) :
    firsts (orders ++ [order]) = firsts orders := by
  rw [firsts_concat, if_pos seen]

theorem firsts_concat_of_not_mem
    (new : order.orderId ∉ orders.map Envelope.orderId) :
    firsts (orders ++ [order]) = firsts orders ++ [order] := by
  rw [firsts_concat, if_neg new]

theorem length_firsts_le (orders : List (Envelope OrderCompleted)) :
    (firsts orders).length ≤ orders.length := by
  induction orders using List.reverseRecOn with
  | nil => exact Nat.le_refl 0
  | append_singleton orders order ih =>
      rw [firsts_concat]
      split
      · simp only [List.length_append, List.length_singleton]
        omega
      · simp only [List.length_append, List.length_singleton]
        omega

theorem nodup_firsts (orders : List (Envelope OrderCompleted)) :
    ((firsts orders).map Envelope.orderId).Nodup := by
  induction orders using List.reverseRecOn with
  | nil => exact List.nodup_nil
  | append_singleton orders order ih =>
      rw [firsts_concat]
      split
      · exact ih
      · next new =>
          rw [List.map_append, List.map_singleton, List.nodup_append]
          refine ⟨ih, by simp, ?_⟩
          rintro orderId member _ rest rfl
          rw [List.mem_singleton] at rest
          exact new (mem_orderIds_firsts.mp (rest ▸ member))

/-! ## Numbers -/

/-- What is told of shipments, each of which has the number after those of its key. -/
def numbered (orders : List (Envelope OrderCompleted)) : List Told :=
  orders.foldl
    (fun earlier order => earlier ++ [{
      orderId := order.orderId
      userId := order.payload.userId
      partitionKey := order.resolvedKey
      number := some (1 + earlier.countP fun told => told.partitionKey = order.resolvedKey) }])
    []

theorem numbered_concat :
    numbered (orders ++ [order]) = numbered orders ++ [{
      orderId := order.orderId
      userId := order.payload.userId
      partitionKey := order.resolvedKey
      number := some (1 +
        (numbered orders).countP fun told => told.partitionKey = order.resolvedKey) }] := by
  rw [numbered, List.foldl_append, List.foldl_cons, List.foldl_nil]
  rfl

/-- The numbers of a key count the shipments of that key alone. -/
theorem filter_numbered
    (orders : List (Envelope OrderCompleted))
    (key : String) :
    (numbered orders).filter (fun told => told.partitionKey = key) =
      numbered (orders.filter fun order => order.resolvedKey = key) := by
  induction orders using List.reverseRecOn with
  | nil => rfl
  | append_singleton orders order ih =>
      rw [numbered_concat, List.filter_append, List.filter_append, ih]
      by_cases same : order.resolvedKey = key
      · subst same
        simp only [List.filter_cons, List.filter_nil, decide_true, if_true, numbered_concat]
        rw [← ih, List.countP_filter]
        simp
      · simp [same]

theorem length_numbered (orders : List (Envelope OrderCompleted)) :
    (numbered orders).length = orders.length := by
  induction orders using List.reverseRecOn with
  | nil => rfl
  | append_singleton orders order ih => simp [numbered_concat, ih]

theorem countP_numbered
    (orders : List (Envelope OrderCompleted))
    (key : String) :
    (numbered orders).countP (fun told => told.partitionKey = key) =
      orders.countP fun order => order.resolvedKey = key := by
  rw [List.countP_eq_length_filter, filter_numbered, length_numbered,
    List.countP_eq_length_filter]

end Workflow

/-! ## Counters -/

namespace Counters

/-- How many numbers were taken, if every key began at the first one. -/
def taken (counters : Counters) : Int :=
  (counters.map fun counter => counter.2 - Tables.firstSequence).sum

/-- Setting a key moves what was taken by as much as the key was moved. -/
theorem taken_set
    (counters : Counters)
    (key : String)
    (value : Int) :
    (counters.set key value).taken =
      counters.taken + (value - (counters.next? key).getD Tables.firstSequence) := by
  induction counters with
  | nil => simp [set, taken, next?]
  | cons counter counters ih =>
      obtain ⟨other, old⟩ := counter
      unfold set
      split
      · next same =>
          subst same
          simp only [taken, next?, List.map_cons, List.sum_cons, List.lookup_cons_self,
            Option.getD_some]
          omega
      · next differs =>
          have apart : (key == other) = false := by simpa using fun same => differs same.symm
          simp only [taken, next?] at ih
          simp only [taken, next?, List.map_cons, List.sum_cons, List.lookup_cons, apart, ih]
          omega

/-- Setting a key adds it to the keys unless it is there. -/
theorem keys_set
    (counters : Counters)
    (key : String)
    (value : Int) :
    (counters.set key value).map Prod.fst =
      if key ∈ counters.map Prod.fst then counters.map Prod.fst
      else counters.map Prod.fst ++ [key] := by
  induction counters with
  | nil => rfl
  | cons counter counters ih =>
      obtain ⟨other, old⟩ := counter
      unfold set
      split
      · next same =>
          subst same
          simp
      · next differs =>
          have apart : key ≠ other := fun same => differs same.symm
          simp only [List.map_cons, ih, List.mem_cons, apart, false_or]
          split
          · rfl
          · rfl

theorem nodup_keys_set
    {counters : Counters}
    (nodup : (counters.map Prod.fst).Nodup)
    (key : String)
    (value : Int) : ((counters.set key value).map Prod.fst).Nodup := by
  rw [keys_set]
  split
  · exact nodup
  · next new =>
      refine List.nodup_append.mpr ⟨nodup, by simp, ?_⟩
      rintro other member _ rest rfl
      exact new (List.mem_singleton.mp rest ▸ member)

end Counters
end Fulfilment
