import Fulfilment.Proofs.Concurrency.Progress

/-!
# What the broker knows and what is committed

In every world that can be reached, the broker has acknowledged one message for every shipment
that was committed, and one for every attempt that stands between its acknowledged event and its
commit.  The locks see to it that there is at most one such attempt for an order and for a key.
-/

namespace Fulfilment
namespace Concurrency

open Fulfilment.Workflow
open World

/-- The announcements about an order balance its shipments, with one more while an attempt at the
order stands between its acknowledged event and its commit. -/
def OrderBalanced
    (first committed : Tables)
    (announcements : List (Envelope ShippingCreated))
    (orderId : Uuid)
    (announcing : Prop) : Prop :=
  (announcing →
      announcementsOf announcements orderId + first.shipmentsOf orderId =
        committed.shipmentsOf orderId + 1)
    ∧ (¬ announcing →
      announcementsOf announcements orderId + first.shipmentsOf orderId =
        committed.shipmentsOf orderId)

/-- The numbers announced under a key lead to the one that is due, and to the next while an attempt
under the key stands there. -/
def KeyBalanced
    (first committed : Tables)
    (announcements : List (Envelope ShippingCreated))
    (key : String)
    (announcing : Prop) : Prop :=
  ∃ count : Nat, numbersUnder announcements key = consecutive (first.due key) count
    ∧ (announcing → first.due key + count = committed.due key + 1)
    ∧ (¬ announcing → first.due key + count = committed.due key)

section

variable
  {first committed after : Tables}
  {announcements : List (Envelope ShippingCreated)}
  {event : Envelope ShippingCreated}
  {announcing next : Prop}

/-- An announcement about the order is the one more. -/
theorem OrderBalanced.announce
    {orderId : Uuid}
    (balanced : OrderBalanced first committed announcements orderId announcing)
    (before : ¬ announcing)
    (now : next)
    (about : event.payload.orderId = orderId) :
    OrderBalanced first committed (announcements ++ [event]) orderId next := by
  have settled := balanced.2 before
  have once : announcementsOf [event] orderId = 1 := by simp [announcementsOf, about]
  refine ⟨fun _ => ?_, fun quiet => absurd now quiet⟩
  rw [announcementsOf_append, once]
  omega

/-- An announcement about another order is none about this one. -/
theorem OrderBalanced.other
    {orderId : Uuid}
    (balanced : OrderBalanced first committed announcements orderId announcing)
    (other : event.payload.orderId ≠ orderId) :
    OrderBalanced first committed (announcements ++ [event]) orderId announcing := by
  have never : announcementsOf [event] orderId = 0 := by simp [announcementsOf, other]
  rwa [OrderBalanced, announcementsOf_append, never, Nat.add_zero]

/-- The shipment that was announced is committed. -/
theorem OrderBalanced.settle
    {orderId : Uuid}
    (balanced : OrderBalanced first committed announcements orderId announcing)
    (before : announcing)
    (now : ¬ next)
    (stored : after.shipmentsOf orderId = committed.shipmentsOf orderId + 1) :
    OrderBalanced first after announcements orderId next :=
  ⟨fun announced => absurd announced now, fun _ => (balanced.1 before).trans stored.symm⟩

/-- Nothing changes for an order without a new shipment. -/
theorem OrderBalanced.keep
    {orderId : Uuid}
    (balanced : OrderBalanced first committed announcements orderId announcing)
    (kept : after.shipmentsOf orderId = committed.shipmentsOf orderId) :
    OrderBalanced first after announcements orderId announcing := by
  rwa [OrderBalanced, kept]

/-- An announcement with the number that is due is the next. -/
theorem KeyBalanced.announce
    {key : String}
    (balanced : KeyBalanced first committed announcements key announcing)
    (before : ¬ announcing)
    (now : next)
    (under : event.partitionKey = key)
    (due : event.number? = some (committed.due key)) :
    KeyBalanced first committed (announcements ++ [event]) key next := by
  obtain ⟨count, told, -, settled⟩ := balanced
  refine ⟨count + 1, ?_, fun _ => ?_, fun quiet => absurd now quiet⟩
  · have last : numbersUnder [event] key = [some (committed.due key)] := by
      simp [numbersUnder, under, due]
    rw [numbersUnder_append, told, last, consecutive_concat, settled before]
  · have balance := settled before
    omega

/-- An announcement under another key is none under this one. -/
theorem KeyBalanced.other
    {key : String}
    (balanced : KeyBalanced first committed announcements key announcing)
    (other : event.partitionKey ≠ key) :
    KeyBalanced first committed (announcements ++ [event]) key announcing := by
  have never : numbersUnder [event] key = [] := by simp [numbersUnder, other]
  rwa [KeyBalanced, numbersUnder_append, never, List.append_nil]

/-- The number that was announced is used. -/
theorem KeyBalanced.settle
    {key : String}
    (balanced : KeyBalanced first committed announcements key announcing)
    (before : announcing)
    (now : ¬ next)
    (used : after.due key = committed.due key + 1) :
    KeyBalanced first after announcements key next := by
  obtain ⟨count, told, announced, -⟩ := balanced
  exact ⟨count, told, fun holds => absurd holds now, fun _ => (announced before).trans used.symm⟩

/-- Nothing changes for a key whose number is not used. -/
theorem KeyBalanced.keep
    {key : String}
    (balanced : KeyBalanced first committed announcements key announcing)
    (kept : after.due key = committed.due key) :
    KeyBalanced first after announcements key announcing := by
  rwa [KeyBalanced, kept]

end

variable
  {Attempt : Type}
  {task : Attempt → Task}

namespace World

/-- What the messages of all attempts announce, in the order in which they were sent. -/
def announcements (world : World Attempt) : List (Envelope ShippingCreated) :=
  Message.announcements (world.sent.map Prod.snd)

/-- An attempt of some kind stands between its acknowledged event and its commit. -/
def Announcing
    (world : World Attempt)
    (kind : Attempt → Shipment → Prop) : Prop :=
  ∃ attempt shipment sequence event,
    world.phase attempt = .announced shipment sequence event ∧ kind attempt shipment

/-- An attempt of some kind other than the given one stands there. -/
def AnnouncingElse
    (world : World Attempt)
    (attempt : Attempt)
    (kind : Attempt → Shipment → Prop) : Prop :=
  ∃ other shipment sequence event, other ≠ attempt
    ∧ world.phase other = .announced shipment sequence event ∧ kind other shipment

/-- The attempts at an order. -/
def AboutOrder
    (orderId : Uuid)
    (_ : Attempt)
    (shipment : Shipment) : Prop :=
  shipment.orderId = orderId

/-- The attempts under a key. -/
def UnderKey
    (task : Attempt → Task)
    (key : String)
    (attempt : Attempt)
    (_ : Shipment) : Prop :=
  (task attempt).envelope.resolvedKey = key

/-- The messages that an attempt sends announce themselves. -/
theorem announcements_send
    (world : World Attempt)
    (attempt : Attempt)
    (messages : List Message) :
    (world.send attempt messages).announcements =
      world.announcements ++ Message.announcements messages := by
  simp [announcements, send, Message.announcements, List.filterMap_append, List.map_map,
    Function.comp_def]

end World

/-- Where no attempt stands there, none of any kind does. -/
theorem World.not_announcing
    {world : World Attempt}
    (quiet : ∀ attempt, ¬ (world.phase attempt).IsAnnounced)
    (kind : Attempt → Shipment → Prop) : ¬ world.Announcing kind := by
  rintro ⟨attempt, shipment, sequence, event, phase, -⟩
  refine quiet attempt ?_
  rw [phase]
  trivial

/-- Either the given attempt stands there or another. -/
theorem announcing_iff
    (world : World Attempt)
    (attempt : Attempt)
    (kind : Attempt → Shipment → Prop) :
    world.Announcing kind ↔
      world.AnnouncingElse attempt kind
        ∨ ∃ shipment sequence event,
          world.phase attempt = .announced shipment sequence event ∧ kind attempt shipment := by
  constructor
  · rintro ⟨other, shipment, sequence, event, phase, own⟩
    by_cases same : other = attempt
    · subst same
      exact .inr ⟨shipment, sequence, event, phase, own⟩
    · exact .inl ⟨other, shipment, sequence, event, same, phase, own⟩
  · rintro (⟨other, shipment, sequence, event, -, phase, own⟩ |
      ⟨shipment, sequence, event, phase, own⟩)
    · exact ⟨other, shipment, sequence, event, phase, own⟩
    · exact ⟨attempt, shipment, sequence, event, phase, own⟩

/-- An attempt that is announced holds its shipment, its number and its ledger entry. -/
theorem writes_of_announced
    {world : World Attempt}
    {attempt : Attempt}
    {shipment : Shipment}
    {sequence : Int}
    {event : Envelope ShippingCreated}
    (task : Attempt → Task)
    (phase : world.phase attempt = .announced shipment sequence event) :
    world.shipments task attempt = some shipment
      ∧ world.numbers task attempt = some ((task attempt).envelope.resolvedKey, sequence) := by
  rw [shipments, numbers, writes_of_phase phase]
  exact ⟨rfl, rfl⟩

/-- An attempt that does not stand there adds nothing to those that do. -/
theorem announcing_of_not_isAnnounced
    (world : World Attempt)
    (attempt : Attempt)
    (elsewhere : ¬ (world.phase attempt).IsAnnounced)
    (kind : Attempt → Shipment → Prop) :
    world.Announcing kind ↔ world.AnnouncingElse attempt kind := by
  rw [announcing_iff world attempt]
  refine or_iff_left ?_
  rintro ⟨shipment, sequence, event, phase, -⟩
  rw [phase] at elsewhere
  exact elsewhere trivial

/-- An attempt that stands there adds itself. -/
theorem announcing_of_announced
    {world : World Attempt}
    {attempt : Attempt}
    {shipment : Shipment}
    {sequence : Int}
    {event : Envelope ShippingCreated}
    (phase : world.phase attempt = .announced shipment sequence event)
    (kind : Attempt → Shipment → Prop) :
    world.Announcing kind ↔ world.AnnouncingElse attempt kind ∨ kind attempt shipment := by
  rw [announcing_iff world attempt]
  refine or_congr_right ⟨?_, fun own => ⟨shipment, sequence, event, phase, own⟩⟩
  rintro ⟨other, number, told, same, own⟩
  cases phase.symm.trans same
  exact own

/-- An order of which an attempt holds the shipment is announced by no other attempt. -/
theorem World.Locked.not_announcingElse_order
    {world : World Attempt}
    {attempt : Attempt}
    {shipment : Shipment}
    (locked : Locked task world)
    (holds : world.shipments task attempt = some shipment) :
    ¬ world.AnnouncingElse attempt (AboutOrder shipment.orderId) := by
  rintro ⟨other, held, sequence, event, differs, phase, same⟩
  obtain ⟨-, apart⟩ := locked.shipments attempt shipment holds
  exact (apart other differs held (writes_of_announced task phase).1).2 same

/-- A key of which an attempt holds the number is announced by no other attempt. -/
theorem World.Locked.not_announcingElse_key
    {world : World Attempt}
    {attempt : Attempt}
    {key : String}
    {number : Int}
    (locked : Locked task world)
    (holds : world.numbers task attempt = some (key, number)) :
    ¬ world.AnnouncingElse attempt (UnderKey task key) := by
  rintro ⟨other, held, sequence, event, differs, phase, same⟩
  obtain ⟨-, apart⟩ := locked.numbers attempt _ holds
  exact apart other differs _ (writes_of_announced task phase).2 same

/-- A number that an attempt holds is the one that its key is due. -/
theorem World.Locked.due
    {world : World Attempt}
    {attempt : Attempt}
    {key : String}
    {number : Int}
    (locked : Locked task world)
    (holds : world.numbers task attempt = some (key, number)) :
    number = world.committed.due key :=
  (locked.numbers attempt _ holds).1

/-- An attempt that commits is announced, or has written neither shipment nor number. -/
theorem announced_or_plain_of_result?
    {phase : Phase}
    {task : Task}
    {result : Result}
    (complete : phase.result? task.envelope.eventId = some result) :
    (∃ shipment sequence event, phase = .announced shipment sequence event)
      ∨ ¬ phase.IsAnnounced ∧ (phase.writes task).shipment = none
        ∧ (phase.writes task).number = none := by
  cases phase with
  | announced shipment sequence event => exact .inl ⟨shipment, sequence, event, rfl⟩
  | duplicate => exact .inr ⟨id, rfl, rfl⟩
  | entered shipment => exact .inr ⟨id, rfl, rfl⟩
  | _ => cases complete

/-- The shipments of an order are those of the tables and the one that is written. -/
theorem Writes.shipmentsOf_onto
    (writes : Writes)
    (tables : Tables)
    (orderId : Uuid) :
    (writes.onto tables).shipmentsOf orderId =
      tables.shipmentsOf orderId
        + (writes.shipment.toList.map Shipment.orderId).count orderId := by
  simp [Writes.onto, Tables.shipmentsOf]

/-- The announcements balance the shipments and lead the counters. -/
structure Accounted
    (task : Attempt → Task)
    (first : Tables)
    (world : World Attempt) : Prop where
  orders : ∀ orderId, OrderBalanced first world.committed world.announcements orderId
    (world.Announcing (AboutOrder orderId))
  keys : ∀ key, KeyBalanced first world.committed world.announcements key
    (world.Announcing (UnderKey task key))

/-- The accounts are settled before anything is done. -/
theorem Accounted.start
    (task : Attempt → Task)
    (first : Tables) : Accounted task first (World.start first) where
  orders := by
    refine fun orderId => ⟨?_, fun _ => Nat.zero_add _⟩
    rintro ⟨attempt, shipment, sequence, event, phase, -⟩
    cases phase
  keys := by
    refine fun key => ⟨0, rfl, ?_, fun _ => Int.add_zero _⟩
    rintro ⟨attempt, shipment, sequence, event, phase, -⟩
    cases phase

variable
  [DecidableEq Attempt]
  {world next : World Attempt}

/-- The other attempts stand where they stood. -/
theorem announcingElse_move
    (world : World Attempt)
    (attempt : Attempt)
    (phase : Phase)
    (kind : Attempt → Shipment → Prop) :
    (world.move attempt phase).AnnouncingElse attempt kind ↔
      world.AnnouncingElse attempt kind := by
  constructor
  · rintro ⟨other, shipment, sequence, event, differs, at', own⟩
    rw [phase_move_other differs] at at'
    exact ⟨other, shipment, sequence, event, differs, at', own⟩
  · rintro ⟨other, shipment, sequence, event, differs, at', own⟩
    refine ⟨other, shipment, sequence, event, differs, ?_, own⟩
    rwa [phase_move_other differs]

namespace Accounted

variable
  {first : Tables}
  {attempt : Attempt}

/-- An attempt that goes on without an acknowledged message leaves the accounts. -/
theorem move
    {phase : Phase}
    {messages : List Message}
    (accounted : Accounted task first world)
    (unacknowledged : ∀ message ∈ messages, message.acknowledged = false)
    (before : ¬ (world.phase attempt).IsAnnounced)
    (after : ¬ phase.IsAnnounced) :
    Accounted task first ((world.send attempt messages).move attempt phase) := by
  have same : ∀ kind, ((world.send attempt messages).move attempt phase).Announcing kind ↔
      world.Announcing kind := by
    intro kind
    rw [announcing_of_not_isAnnounced _ attempt (by simpa using after), announcingElse_move,
      announcing_of_not_isAnnounced world attempt before]
    rfl
  have silent : ((world.send attempt messages).move attempt phase).announcements =
      world.announcements := by
    have added := announcements_send world attempt messages
    rw [Message.announcements_of_unacknowledged unacknowledged, List.append_nil] at added
    exact added
  refine ⟨fun orderId => ?_, fun key => ?_⟩
  · rw [same, silent]
    exact accounted.orders orderId
  · rw [same, silent]
    exact accounted.keys key

/-- An attempt whose event is acknowledged is one more announcement, of its order and of its
key. -/
theorem announce
    {shipment : Shipment}
    {sequence : Int}
    {event : Envelope ShippingCreated}
    {message : Message}
    (accounted : Accounted task first world)
    (locked : Locked task world)
    (phase : world.phase attempt = .marked shipment sequence event)
    (tells : (task attempt).Tells shipment sequence event)
    (announces : message.announcement? = some event) :
    Accounted task first
      ((world.send attempt [message]).move attempt (.announced shipment sequence event)) := by
  have holdsShipment : world.shipments task attempt = some shipment := by
    rw [World.shipments, writes_of_phase phase]
    rfl
  have holdsNumber : world.numbers task attempt =
      some ((task attempt).envelope.resolvedKey, sequence) := by
    rw [World.numbers, writes_of_phase phase]
    rfl
  have before : ∀ kind, world.Announcing kind ↔ world.AnnouncingElse attempt kind :=
    announcing_of_not_isAnnounced world attempt (by simp [phase, Phase.IsAnnounced])
  have after : ∀ kind, ((world.send attempt [message]).move attempt
      (.announced shipment sequence event)).Announcing kind ↔
        world.AnnouncingElse attempt kind ∨ kind attempt shipment := by
    intro kind
    rw [announcing_of_announced (phase_move_same _ _ _), announcingElse_move]
    rfl
  have added : ((world.send attempt [message]).move attempt
      (.announced shipment sequence event)).announcements = world.announcements ++ [event] := by
    have sent := announcements_send world attempt [message]
    simp only [Message.announcements, List.filterMap_cons, List.filterMap_nil, announces] at sent
    exact sent
  refine ⟨fun orderId => ?_, fun key => ?_⟩
  · have balanced := accounted.orders orderId
    rw [before] at balanced
    rw [after, added]
    by_cases about : AboutOrder orderId attempt shipment
    · -- The shipment is locked, so no other attempt at the order stands before its commit.
      have alone := locked.not_announcingElse_order holdsShipment
      rw [about] at alone
      exact balanced.announce alone (.inr about) (tells.aboutOrder.trans about)
    · rw [or_iff_left about]
      exact balanced.other fun same => about (tells.aboutOrder.symm.trans same)
  · have balanced := accounted.keys key
    rw [before] at balanced
    rw [after, added]
    by_cases under : UnderKey task key attempt shipment
    · -- The counter is locked too, so the number is still the one that is due.
      have alone := locked.not_announcingElse_key holdsNumber
      have number := tells.number
      rw [locked.due holdsNumber, under] at number
      rw [under] at alone
      exact balanced.announce alone (.inr under) (tells.partitionKey.trans under) number
    · rw [or_iff_left under]
      exact balanced.other fun same => under (tells.partitionKey.symm.trans same)

/-- An attempt that commits is not announced any more. -/
theorem announcing_finish
    (world : World Attempt)
    (task : Attempt → Task)
    (attempt : Attempt)
    (result : Result)
    (kind : Attempt → Shipment → Prop) :
    (world.finish task attempt result).Announcing kind ↔ world.AnnouncingElse attempt kind := by
  rw [← announcingElse_move world attempt (.ended (.ok result))]
  exact announcing_of_not_isAnnounced _ attempt (by simp [World.finish, Phase.IsAnnounced]) kind

/-- An attempt that commits what it has announced turns the announcement into a shipment and a
number that is used. -/
theorem finish_announced
    {shipment : Shipment}
    {sequence : Int}
    {event : Envelope ShippingCreated}
    (accounted : Accounted task first world)
    (locked : Locked task world)
    (phase : world.phase attempt = .announced shipment sequence event)
    (result : Result) : Accounted task first (world.finish task attempt result) := by
  obtain ⟨holdsShipment, holdsNumber⟩ := writes_of_announced task phase
  have before := announcing_of_announced phase
  refine ⟨fun orderId => ?_, fun key => ?_⟩
  · have balanced := accounted.orders orderId
    have stored := Writes.shipmentsOf_onto (world.writes task attempt) world.committed orderId
    rw [show (world.writes task attempt).shipment = some shipment from holdsShipment,
      Option.toList_some, List.map_singleton] at stored
    rw [before] at balanced
    rw [announcing_finish]
    by_cases about : AboutOrder orderId attempt shipment
    · have alone := locked.not_announcingElse_order holdsShipment
      rw [about] at alone
      rw [about, List.count_singleton_self] at stored
      exact balanced.settle (.inr about) alone stored
    · rw [or_iff_left about] at balanced
      rw [List.count_singleton, if_neg (mt beq_iff_eq.mp about), Nat.add_zero] at stored
      exact balanced.keep stored
  · have balanced := accounted.keys key
    rw [before] at balanced
    rw [announcing_finish]
    by_cases under : UnderKey task key attempt shipment
    · have alone := locked.not_announcingElse_key holdsNumber
      have used := Writes.due_onto_of_taken holdsNumber world.committed
      rw [locked.due holdsNumber, under] at used
      rw [under] at alone
      exact balanced.settle (.inr under) alone used
    · rw [or_iff_left under] at balanced
      refine balanced.keep (Writes.due_onto_of_other ?_ world.committed)
      intro taken holds
      cases holdsNumber.symm.trans holds
      exact under

/-- An attempt that commits neither a shipment nor a number leaves the accounts. -/
theorem finish_plain
    (accounted : Accounted task first world)
    (elsewhere : ¬ (world.phase attempt).IsAnnounced)
    (unplaced : (world.writes task attempt).shipment = none)
    (unnumbered : (world.writes task attempt).number = none)
    (result : Result) : Accounted task first (world.finish task attempt result) := by
  have before := announcing_of_not_isAnnounced world attempt elsewhere
  refine ⟨fun orderId => ?_, fun key => ?_⟩
  · have balanced := accounted.orders orderId
    have stored := Writes.shipmentsOf_onto (world.writes task attempt) world.committed orderId
    rw [unplaced] at stored
    rw [before] at balanced
    rw [announcing_finish]
    exact balanced.keep stored
  · have balanced := accounted.keys key
    rw [before] at balanced
    rw [announcing_finish]
    refine balanced.keep (Writes.due_onto_of_other ?_ world.committed)
    intro taken holds
    cases unnumbered.symm.trans holds

/-- An attempt that commits settles its accounts. -/
theorem finish
    {result : Result}
    (accounted : Accounted task first world)
    (locked : Locked task world)
    (complete : (world.phase attempt).result? (task attempt).envelope.eventId = some result) :
    Accounted task first (world.finish task attempt result) := by
  rcases announced_or_plain_of_result? complete with
    ⟨shipment, sequence, event, phase⟩ | ⟨elsewhere, unplaced, unnumbered⟩
  · exact accounted.finish_announced locked phase result
  · exact accounted.finish_plain elsewhere unplaced unnumbered result

end Accounted
end Concurrency
end Fulfilment
