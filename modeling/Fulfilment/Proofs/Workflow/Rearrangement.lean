import Fulfilment.Proofs.Workflow.Mirror
import Mathlib.Data.List.FinRange
import Mathlib.Data.List.Sort

/-!
# The order of independent deliveries

Deliveries can be handled in any order: the same orders are shipped, the same events are entered,
and as many numbers are taken.  If the deliveries of one order and those of one key keep their
order among themselves, every order also gets the same number under the same key, and the tables
differ in identifiers and times only.  So nothing is passed from one order to another but through
their common key.
-/

namespace Fulfilment

/-! ## Filters of rearranged lists -/

section Lists

variable {α β : Type}

/-- Lists with the same elements in each class are the same up to their order. -/
theorem perm_of_filter_eq
    [DecidableEq α]
    [DecidableEq β]
    {list other : List α}
    (kind : α → β)
    (same : ∀ value,
      list.filter (fun element => kind element = value) =
        other.filter fun element => kind element = value) : list.Perm other := by
  rw [List.perm_iff_count]
  intro element
  have own (list : List α) :
      (list.filter fun other => kind other = kind element).count element = list.count element :=
    List.count_filter (by simp)
  rw [← own list, same, own]

end Lists

/-- Where the elements of a list come from, of which another list is a rearrangement. -/
structure Rearrangement (list other : List α) where
  origin : Fin other.length ≃ Fin list.length
  same : ∀ place, other.get place = list.get (origin place)

namespace Rearrangement

variable {list other : List α}

/-- A rearranged list is the list of the origins' elements. -/
theorem eq_map (rearrangement : Rearrangement list other) :
    other = ((List.finRange other.length).map rearrangement.origin).map list.get := by
  rw [List.map_map]
  calc
    other = (List.finRange other.length).map other.get := (List.map_get_finRange other).symm
    _ = (List.finRange other.length).map (list.get ∘ rearrangement.origin) :=
      List.map_congr_left fun place _ => rearrangement.same place

/-- The origins are all places. -/
theorem origins_perm (rearrangement : Rearrangement list other) :
    ((List.finRange other.length).map rearrangement.origin).Perm (List.finRange list.length) := by
  have nodup := (List.nodup_finRange other.length).map rearrangement.origin.injective
  rw [List.perm_ext_iff_of_nodup nodup (List.nodup_finRange list.length)]
  intro place
  simpa using rearrangement.origin.surjective place

theorem perm (rearrangement : Rearrangement list other) : other.Perm list := by
  have places := rearrangement.origins_perm.map list.get
  rwa [← rearrangement.eq_map, List.map_get_finRange] at places

/-- Elements that keep their order among themselves are the same sublist of both lists. -/
theorem filter_eq
    {keep : α → Bool}
    (rearrangement : Rearrangement list other)
    (inOrder : ∀ first second, first < second → keep (other.get first) → keep (other.get second) →
      rearrangement.origin first < rearrangement.origin second) :
    other.filter keep = list.filter keep := by
  have origins := rearrangement.origins_perm.filter (keep ∘ list.get)
  have sorted : (((List.finRange other.length).map rearrangement.origin).filter
      (keep ∘ list.get)).Pairwise (· < ·) := by
    rw [List.filter_map, List.pairwise_map]
    refine (List.pairwise_lt_finRange other.length).filter _ |>.imp_of_mem ?_
    intro first second firstMember secondMember less
    have kept {place : Fin other.length}
        (member : place ∈ (List.finRange other.length).filter
          ((keep ∘ list.get) ∘ rearrangement.origin)) : keep (other.get place) := by
      rw [rearrangement.same]
      exact (List.mem_filter.mp member).2
    exact inOrder first second less (kept firstMember) (kept secondMember)
  have places := origins.eq_of_pairwise (fun _ _ _ _ less more => absurd more (lt_asymm less))
    sorted ((List.pairwise_lt_finRange list.length).filter _)
  calc
    other.filter keep = (((List.finRange other.length).map rearrangement.origin).map
        list.get).filter keep := by rw [← rearrangement.eq_map]
    _ = (((List.finRange other.length).map rearrangement.origin).filter
        (keep ∘ list.get)).map list.get := List.filter_map
    _ = ((List.finRange list.length).filter (keep ∘ list.get)).map list.get := by rw [places]
    _ = ((List.finRange list.length).map list.get).filter keep := List.filter_map.symm
    _ = list.filter keep := by rw [List.map_get_finRange]

/-- The rearrangement of two elements. -/
def swap (first second : α) : Rearrangement [first, second] [second, first] where
  origin := Equiv.swap (0 : Fin 2) 1
  same place := by
    match place with
    | 0 => rfl
    | 1 => rfl

end Rearrangement

/-! ## Counters -/

namespace Counters

/-- A counter is the one of its key, if no key has two. -/
theorem mem_iff_next?
    {counters : Counters}
    {key : String}
    {value : Int}
    (nodup : (counters.map Prod.fst).Nodup) :
    (key, value) ∈ counters ↔ counters.next? key = some value := by
  induction counters with
  | nil => simp [next?]
  | cons counter counters ih =>
      obtain ⟨other, number⟩ := counter
      rw [List.map_cons, List.nodup_cons] at nodup
      obtain ⟨new, nodup⟩ := nodup
      have rest := ih nodup
      rw [List.mem_cons, next?, List.lookup_cons]
      by_cases same : key = other
      · subst same
        have absent : (key, value) ∉ counters := fun member =>
          new (List.mem_map.mpr ⟨_, member, rfl⟩)
        simp [absent, eq_comm]
      · have apart : (key == other) = false := by simpa using same
        simp only [Prod.mk.injEq, same, false_and, false_or, apart]
        exact rest

/-- Counters that tell the same for every key are the same up to their order. -/
theorem perm_of_next?_eq
    {counters others : Counters}
    (nodup : (counters.map Prod.fst).Nodup)
    (otherNodup : (others.map Prod.fst).Nodup)
    (same : ∀ key, counters.next? key = others.next? key) : counters.Perm others := by
  rw [List.perm_ext_iff_of_nodup nodup.of_map otherNodup.of_map]
  rintro ⟨key, value⟩
  rw [mem_iff_next? nodup, mem_iff_next? otherNodup, same]

end Counters

namespace Workflow

open Fulfilment.Service

/-! ## First events of rearranged orders -/

/-- An order that was begun, but not under the key of another event about it, was begun under
another key. -/
theorem find?_map_resolvedKey_ne
    {orders : List (Envelope OrderCompleted)}
    {order : Envelope OrderCompleted}
    (seen : order.orderId ∈ orders.map Envelope.orderId)
    (elsewhere : order.orderId ∉
      (orders.filter fun other => other.resolvedKey = order.resolvedKey).map Envelope.orderId) :
    ((orders ++ [order]).find? fun other => other.orderId = order.orderId).map
      Envelope.resolvedKey ≠ some order.resolvedKey := by
  obtain ⟨other, inside, same⟩ := List.mem_map.mp seen
  have found : (orders.find? fun other => other.orderId = order.orderId).isSome := by
    rw [List.find?_isSome]
    exact ⟨other, inside, by simpa using same⟩
  rw [List.find?_append, Option.or_of_isSome found]
  intro under
  obtain ⟨begun, isBegun, sameKey⟩ := Option.map_eq_some_iff.mp under
  refine elsewhere (List.mem_map.mpr ⟨begun, List.mem_filter.mpr ⟨?_, by simpa using sameKey⟩, ?_⟩)
  · exact List.mem_of_find?_eq_some isBegun
  · simpa using List.find?_some isBegun

/-- The first events of a key are the first ones among the events of the key whose orders were not
begun under another key. -/
theorem filter_firsts
    (orders : List (Envelope OrderCompleted))
    (key : String) :
    (firsts orders).filter (fun order => order.resolvedKey = key) =
      (firsts (orders.filter fun order => order.resolvedKey = key)).filter fun order =>
        (orders.find? fun other => other.orderId = order.orderId).map Envelope.resolvedKey =
          some key := by
  induction orders using List.reverseRecOn with
  | nil => rfl
  | append_singleton orders order ih =>
      -- Of the orders that are there already, the next one changes nothing.
      have kept : (firsts (orders.filter fun order => order.resolvedKey = key)).filter (fun first =>
          ((orders ++ [order]).find? fun other => other.orderId = first.orderId).map
            Envelope.resolvedKey = some key) =
          (firsts orders).filter fun order => order.resolvedKey = key := by
        rw [ih]
        refine List.filter_congr fun first member => ?_
        have seen : first.orderId ∈ orders.map Envelope.orderId := by
          have inKey := mem_orderIds_firsts.mp (List.mem_map_of_mem member)
          exact (List.filter_sublist.map Envelope.orderId).subset inKey
        obtain ⟨other, inside, same⟩ := List.mem_map.mp seen
        have found : (orders.find? fun other => other.orderId = first.orderId).isSome := by
          rw [List.find?_isSome]
          exact ⟨other, inside, by simpa using same⟩
        rw [List.find?_append, Option.or_of_isSome found]
      rw [List.filter_append]
      by_cases own : order.resolvedKey = key
      · subst own
        simp only [List.filter_cons, List.filter_nil, decide_true, if_true]
        by_cases seen : order.orderId ∈ orders.map Envelope.orderId
        · rw [firsts_concat_of_mem seen]
          by_cases under : order.orderId ∈
              (orders.filter fun other => other.resolvedKey = order.resolvedKey).map
                Envelope.orderId
          · rw [firsts_concat_of_mem under, kept]
          · rw [firsts_concat_of_not_mem under, List.filter_append, kept]
            have elsewhere := find?_map_resolvedKey_ne seen under
            simp only [List.filter_cons, elsewhere, decide_false, Bool.false_eq_true, if_false,
              List.filter_nil, List.append_nil]
        · have under : order.orderId ∉
              (orders.filter fun other => other.resolvedKey = order.resolvedKey).map
                Envelope.orderId :=
            fun inside => seen ((List.filter_sublist.map Envelope.orderId).subset inside)
          have absent : orders.find? (fun other => other.orderId = order.orderId) = none := by
            simpa using seen
          rw [firsts_concat_of_not_mem seen, firsts_concat_of_not_mem under, List.filter_append,
            List.filter_append, kept]
          simp [List.find?_append, absent]
      · simp only [List.filter_cons, own, decide_false, Bool.false_eq_true, if_false,
          List.filter_nil, List.append_nil, kept]
        rw [firsts_concat]
        split
        · rfl
        · simp [own]

/-- First events of orders that agree in each order and in each key agree in each key. -/
theorem filter_firsts_congr
    {orders others : List (Envelope OrderCompleted)}
    (sameOrders : ∀ orderId,
      others.filter (fun order => order.orderId = orderId) =
        orders.filter fun order => order.orderId = orderId)
    (sameKeys : ∀ key,
      others.filter (fun order => order.resolvedKey = key) =
        orders.filter fun order => order.resolvedKey = key)
    (key : String) :
    (firsts others).filter (fun order => order.resolvedKey = key) =
      (firsts orders).filter fun order => order.resolvedKey = key := by
  rw [filter_firsts, filter_firsts, sameKeys]
  refine List.filter_congr fun first _ => ?_
  rw [← List.head?_filter, sameOrders, List.head?_filter]

/-! ## Runs in another order -/

/-- Two bodies are completed orders with a common order or a common key. -/
def Dependent (body other : Option Bytes) : Prop :=
  ∃ order another, orderIn? body = some order ∧ orderIn? other = some another
    ∧ (order.orderId = another.orderId ∨ order.resolvedKey = another.resolvedKey)

/-- A rearrangement of bodies after which dependent ones follow each other as before. -/
def KeepsOrder
    {bodies others : List (Option Bytes)}
    (rearrangement : Rearrangement bodies others) : Prop :=
  ∀ first second, first < second → Dependent (others.get first) (others.get second) →
    rearrangement.origin first < rearrangement.origin second

/-- Two independent bodies can be exchanged. -/
theorem KeepsOrder.swap
    {first second : Option Bytes}
    (independent : ¬ Dependent second first) : KeepsOrder (.swap first second) := by
  intro earlier later less dependent
  have bound : later.val < 2 := later.isLt
  have order : earlier.val < later.val := less
  obtain rfl : earlier = (0 : Fin 2) := Fin.ext (show earlier.val = 0 by omega)
  obtain rfl : later = (1 : Fin 2) := Fin.ext (show later.val = 1 by omega)
  exact absurd dependent independent

/-- Orders in bodies that keep their order are filtered alike by what makes them dependent. -/
theorem KeepsOrder.filter_ordersIn
    {bodies others : List (Option Bytes)}
    {rearrangement : Rearrangement bodies others}
    (keeps : KeepsOrder rearrangement)
    (keep : Envelope OrderCompleted → Bool)
    (dependent : ∀ order another, keep order → keep another →
      order.orderId = another.orderId ∨ order.resolvedKey = another.resolvedKey) :
    (ordersIn others).filter keep = (ordersIn bodies).filter keep := by
  have kept (bodies : List (Option Bytes)) :
      (ordersIn bodies).filter keep =
        (bodies.filter fun body => (orderIn? body).any keep).filterMap orderIn? := by
    rw [ordersIn, List.filter_filterMap, List.filterMap_filter]
    refine List.filterMap_congr fun body _ => ?_
    cases orderIn? body <;> simp [Option.filter]
  rw [kept, kept, rearrangement.filter_eq]
  intro first second less firstKept secondKept
  obtain ⟨order, isOrder, keepsOrder⟩ := (Option.any_eq_true _ _).mp firstKept
  obtain ⟨another, isAnother, keepsAnother⟩ := (Option.any_eq_true _ _).mp secondKept
  exact keeps first second less ⟨order, another, isOrder, isAnother,
    dependent order another keepsOrder keepsAnother⟩

/-- What a run comes to that nothing disturbs: the orders that are shipped, the events that are
entered, the announcements, and the numbers that are taken. -/
structure Settles
    (orders : List (Envelope OrderCompleted))
    (last : Service) : Prop where
  shipped : ∀ orderId, last.store.committed.HasShipment orderId ↔
    ∃ order ∈ orders, order.orderId = orderId
  entered : ∀ eventId, last.store.committed.Knows eventId ↔
    ∃ order ∈ orders, order.eventId = some eventId
  /-- Every shipped order has one shipment and one announcement. -/
  announced : ∀ orderId,
    announcementsOf (Message.announcements last.broker.sent) orderId =
        last.store.committed.shipmentsOf orderId
      ∧ last.store.committed.shipmentsOf orderId ≤ 1
  acknowledged : last.broker.sent.countP Message.acknowledged =
    last.store.committed.shipments.length
  keys : (last.store.committed.counters.map Prod.fst).Nodup
  taken : (last.store.committed.counters.map fun counter => counter.2 - (1 : Int)).sum =
    (last.broker.sent.countP Message.acknowledged : Nat)

/-- Two services with the same rows and announcements, but for identifiers and times. -/
structure Alike (service other : Service) : Prop where
  shipments : (service.store.committed.shipments.map Shipment.goods).Perm
    (other.store.committed.shipments.map Shipment.goods)
  ledger : (service.store.committed.ledger.map fun entry => (entry.eventId, entry.eventName)).Perm
    (other.store.committed.ledger.map fun entry => (entry.eventId, entry.eventName))
  counters : service.store.committed.counters.Perm other.store.committed.counters
  announcements : ((Message.announcements service.broker.sent).map Envelope.told).Perm
    ((Message.announcements other.broker.sent).map Envelope.told)
  /-- Every order has the same user, key and number. -/
  orders : ∀ event ∈ Message.announcements service.broker.sent,
    ∀ another ∈ Message.announcements other.broker.sent,
      event.payload.orderId = another.payload.orderId → event.told = another.told

section Runs

variable
  {service other : Service}
  {orders others : List (Envelope OrderCompleted)}
  {tables otherTables : Tables}

theorem orderIds_numbered (orders : List (Envelope OrderCompleted)) :
    (numbered orders).map Told.orderId = orders.map Envelope.orderId := by
  induction orders using List.reverseRecOn with
  | nil => rfl
  | append_singleton orders order ih =>
      rw [numbered_concat, List.map_append, ih, List.map_append]
      rfl

theorem Tracks.settles (tracks : Tracks service orders tables) : Settles orders service := by
  have committed : service.store.committed = tables := by
    rw [tracks.rests.store]
    rfl
  have mirrors := tracks.mirrors
  have sized : tables.shipments.length = (firsts orders).length := by
    simpa using congrArg List.length mirrors.shipments
  have about :
      (Message.announcements service.broker.sent).map (fun event => event.payload.orderId) =
        tables.shipments.map Shipment.orderId := by
    have told := congrArg (List.map Told.orderId) mirrors.announcements
    rw [orderIds_numbered, ← mirrors.orderIds, List.map_map] at told
    exact told
  refine ⟨?_, ?_, ?_, ?_, ?_, ?_⟩
  all_goals rw [committed]
  · intro orderId
    rw [mirrors.hasShipment_iff, mem_orderIds_firsts, List.mem_map]
  · intro eventId
    rw [mirrors.ledger, mem_eventIds]
  · intro orderId
    exact ⟨by rw [announcementsOf, about, Tables.shipmentsOf],
      mirrors.unique.shipmentsOf_le_one orderId⟩
  · rw [mirrors.acknowledged, sized]
  · exact mirrors.keys
  · rw [mirrors.acknowledged]
    exact mirrors.taken

/-- What a run comes to is settled by the orders, in whatever order they come. -/
theorem Settles.of_perm
    (settles : Settles others service)
    (same : others.Perm orders) : Settles orders service :=
  { settles with
    shipped := by
      intro orderId
      rw [settles.shipped]
      simp only [same.mem_iff]
    entered := by
      intro eventId
      rw [settles.entered]
      simp only [same.mem_iff] }

/-- There is one first event for every order, in whatever order the events come. -/
theorem length_firsts_of_perm (same : others.Perm orders) :
    (firsts others).length = (firsts orders).length := by
  have orderIds : ((firsts others).map Envelope.orderId).Perm
      ((firsts orders).map Envelope.orderId) := by
    rw [List.perm_ext_iff_of_nodup (nodup_firsts others) (nodup_firsts orders)]
    intro orderId
    rw [mem_orderIds_firsts, mem_orderIds_firsts]
    exact (same.map Envelope.orderId).mem_iff
  simpa using orderIds.length_eq

theorem mem_ledger_iff
    {settings : Settings}
    {shipped : List (Envelope OrderCompleted)}
    {entered : List Uuid}
    {sent : List Message}
    (mirrors : Mirrors settings shipped entered tables sent)
    (row : Uuid × String) :
    row ∈ tables.ledger.map (fun entry => (entry.eventId, entry.eventName)) ↔
      row.1 ∈ entered ∧ row.2 = EventType.orderCompleted.name := by
  obtain ⟨eventId, name⟩ := row
  rw [← mirrors.ledger, List.mem_map]
  constructor
  · rintro ⟨entry, member, same⟩
    cases same
    exact ⟨⟨entry, member, rfl⟩, mirrors.names entry member⟩
  · rintro ⟨⟨entry, member, rfl⟩, rfl⟩
    exact ⟨entry, member, by rw [mirrors.names entry member]⟩

/-- Services that track orders with the same first events of each key are alike. -/
theorem Tracks.alike
    (tracks : Tracks service orders tables)
    (otherTracks : Tracks other others otherTables)
    (settings : other.settings = service.settings)
    (sameKeys : ∀ key, (firsts others).filter (fun order => order.resolvedKey = key) =
      (firsts orders).filter fun order => order.resolvedKey = key)
    (sameEvents : ∀ eventId, eventId ∈ eventIds orders ↔ eventId ∈ eventIds others) :
    Alike service other := by
  have committed : service.store.committed = tables := by
    rw [tracks.rests.store]
    rfl
  have otherCommitted : other.store.committed = otherTables := by
    rw [otherTracks.rests.store]
    rfl
  have mirrors := tracks.mirrors
  have otherMirrors := otherTracks.mirrors
  rw [settings] at otherMirrors
  have shipped : (firsts orders).Perm (firsts others) :=
    perm_of_filter_eq Envelope.resolvedKey fun key => (sameKeys key).symm
  have told : (numbered (firsts orders)).Perm (numbered (firsts others)) := by
    refine perm_of_filter_eq Told.partitionKey fun key => ?_
    rw [filter_numbered, filter_numbered, sameKeys]
  have rows (tables : Tables) (unique : tables.Unique) :
      (tables.ledger.map fun entry => (entry.eventId, entry.eventName)).Nodup := by
    refine .of_map Prod.fst ?_
    rw [List.map_map]
    exact unique.events
  refine ⟨?_, ?_, ?_, ?_, ?_⟩
  · rw [committed, otherCommitted, mirrors.shipments, otherMirrors.shipments]
    exact shipped.map _
  · rw [committed, otherCommitted, List.perm_ext_iff_of_nodup (rows _ mirrors.unique)
      (rows _ otherMirrors.unique)]
    intro row
    rw [mem_ledger_iff mirrors, mem_ledger_iff otherMirrors, sameEvents]
  · rw [committed, otherCommitted]
    refine Counters.perm_of_next?_eq mirrors.keys otherMirrors.keys fun key => ?_
    simp only [mirrors.counters, otherMirrors.counters, List.countP_eq_length_filter, sameKeys]
  · rw [mirrors.announcements, otherMirrors.announcements]
    exact told
  · intro event member another anotherMember same
    have nodup : ((numbered (firsts others)).map Told.orderId).Nodup := by
      rw [orderIds_numbered]
      exact nodup_firsts others
    have first : event.told ∈ numbered (firsts others) := by
      rw [← told.mem_iff, ← mirrors.announcements]
      exact List.mem_map_of_mem member
    have second : another.told ∈ numbered (firsts others) := by
      rw [← otherMirrors.announcements]
      exact List.mem_map_of_mem anotherMember
    exact List.inj_on_of_nodup_map nodup first second same

/-- With empty tables at the beginning, and nothing to disturb them, runs over a list of bodies and
over any rearrangement of it ship the same orders, enter the same events, and have as many events
acknowledged, which is as many as numbers are taken.  If dependent bodies keep their order, the
rows and the announcements are the same but for identifiers and times. -/
theorem settles_run_rearranged
    {deliveries otherDeliveries : List Delivery}
    (retries otherRetries : Int)
    (settings : other.settings = service.settings)
    (complete : service.settings.Complete)
    (once : service.IssuesOnce (2 * deliveries.length))
    (otherOnce : other.IssuesOnce (2 * otherDeliveries.length))
    (faultless : ∀ delivery ∈ deliveries ++ otherDeliveries, delivery.IsFaultless)
    (few : deliveries.length < 2 ^ 62)
    (consistent : Consistent (ordersIn (deliveries.map Delivery.body)))
    (rearrangement : Rearrangement (deliveries.map Delivery.body)
      (otherDeliveries.map Delivery.body)) :
    let last := (run retries deliveries (service.over {})).2
    let otherLast := (run otherRetries otherDeliveries (other.over {})).2
    Settles (ordersIn (deliveries.map Delivery.body)) last
      ∧ Settles (ordersIn (deliveries.map Delivery.body)) otherLast
      ∧ otherLast.broker.sent.countP Message.acknowledged =
        last.broker.sent.countP Message.acknowledged
      ∧ (KeepsOrder rearrangement → Alike last otherLast) := by
  intro last otherLast
  have bodies : (ordersIn (otherDeliveries.map Delivery.body)).Perm
      (ordersIn (deliveries.map Delivery.body)) := rearrangement.perm.filterMap orderIn?
  have sized : otherDeliveries.length = deliveries.length := by
    simpa using rearrangement.perm.length_eq
  obtain ⟨tables, tracks, lastSettings⟩ := (tracks_over service).run retries deliveries complete
    once (by simpa using few) (fun delivery member => faultless delivery (by simp [member]))
    consistent
  obtain ⟨otherTables, otherTracks, otherSettings⟩ := (tracks_over other).run otherRetries
    otherDeliveries (settings ▸ complete) otherOnce (by simpa [sized] using few)
    (fun delivery member => faultless delivery (by simp [member]))
    (consistent.of_subset bodies.subset)
  rw [List.nil_append] at tracks otherTracks
  refine ⟨tracks.settles, otherTracks.settles.of_perm bodies, ?_, fun keeps => ?_⟩
  · rw [tracks.mirrors.acknowledged, otherTracks.mirrors.acknowledged]
    exact length_firsts_of_perm bodies
  · refine tracks.alike otherTracks ((otherSettings.trans settings).trans lastSettings.symm) ?_ ?_
    · refine filter_firsts_congr (fun orderId => ?_) (fun key => ?_)
      · refine keeps.filter_ordersIn _ fun order another own anotherOwn => .inl ?_
        exact (of_decide_eq_true own).trans (of_decide_eq_true anotherOwn).symm
      · refine keeps.filter_ordersIn _ fun order another own anotherOwn => .inr ?_
        exact (of_decide_eq_true own).trans (of_decide_eq_true anotherOwn).symm
    · exact fun eventId => (bodies.filterMap Envelope.eventId).mem_iff.symm

end Runs

/-- An order with a key of its own. -/
def keyedOrder : Envelope OrderCompleted :=
  { keylessOrder with
    eventId := some (.numbered 7)
    partitionKey := "key"
    payload := { keylessOrder.payload with orderId := .numbered 8 } }

/-- The delivery of that order. -/
def keyedDelivery : Delivery where
  body := some (Event.orderCompleted keyedOrder).encode
  now := ⟨⟨⟨2025, 1, 3, by decide⟩, .midnight⟩⟩

theorem orderIn?_keyedDelivery : orderIn? keyedDelivery.body = some keyedOrder := by
  have typed : (Event.orderCompleted keyedOrder).IsTyped := ⟨rfl, rfl⟩
  have decoded : Event.decode keyedDelivery.body EventType.orderCompleted.name
      EventType.version = .ok (.orderCompleted keyedOrder) := Event.decode_encode typed
  rw [orderIn?, Event.decodeOrderCompleted, decoded]

theorem orderIn?_keylessDelivery : orderIn? keylessDelivery.body = some keylessOrder := by
  rw [orderIn?, decode_keylessDelivery]

theorem not_dependent_keyedDelivery :
    ¬ Dependent keyedDelivery.body keylessDelivery.body := by
  rintro ⟨order, another, isOrder, isAnother, common⟩
  cases orderIn?_keyedDelivery.symm.trans isOrder
  cases orderIn?_keylessDelivery.symm.trans isAnother
  rcases common with same | same
  · revert same
    decide
  · revert same
    decide

/-- The two deliveries have nothing in common, so either order of them leaves the same. -/
theorem settles_run_swapped :
    let last := (run 1 [keylessDelivery, keyedDelivery] (freshService.over {})).2
    let otherLast := (run 0 [keyedDelivery, keylessDelivery] (freshService.over {})).2
    Settles [keylessOrder, keyedOrder] last ∧ Alike last otherLast := by
  have orders : ordersIn ([keylessDelivery, keyedDelivery].map Delivery.body) =
      [keylessOrder, keyedOrder] := by
    simp [ordersIn, orderIn?_keylessDelivery, orderIn?_keyedDelivery]
  have once : freshService.IssuesOnce 4 := by
    intro first second positive less bound
    have apart : ∀ second < 5, ∀ first < second, Uuid.numbered first ≠ Uuid.numbered second := by
      decide
    exact apart second (Nat.lt_succ_of_le bound) first less
  have consistent : Consistent (ordersIn ([keylessDelivery, keyedDelivery].map Delivery.body)) := by
    rw [orders]
    intro first firstMember second secondMember eventId isFirst isSecond
    rw [List.mem_pair] at firstMember secondMember
    rcases firstMember with rfl | rfl <;> rcases secondMember with rfl | rfl
    · rfl
    · cases isFirst
    · cases isSecond
    · rfl
  have faultless :
      ∀ delivery ∈ [keylessDelivery, keyedDelivery] ++ [keyedDelivery, keylessDelivery],
        delivery.IsFaultless := by
    have keyless : keylessDelivery.IsFaultless :=
      ⟨by simp [keylessDelivery], by simp [keylessDelivery]⟩
    have keyed : keyedDelivery.IsFaultless := ⟨by simp [keyedDelivery], by simp [keyedDelivery]⟩
    simp [keyless, keyed]
  obtain ⟨settles, -, -, alike⟩ := settles_run_rearranged 1 0 rfl ⟨rfl, rfl, rfl⟩ once once
    faultless (by decide) consistent (.swap _ _)
  rw [orders] at settles
  exact ⟨settles, alike (.swap not_dependent_keyedDelivery)⟩

end Workflow
end Fulfilment
