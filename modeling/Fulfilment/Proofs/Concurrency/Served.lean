import Fulfilment.Proofs.Concurrency.Safety

/-!
# Attempts that leave an order shipped

Where events with the same identifier are about the same order, an attempt that ends with a result
leaves its order with a shipment: it has created one, has found one, or has found its event in the
ledger, where an event stands only if its order was shipped.  An order that has a shipment has one,
with one announcement, whatever the other attempts are at.
-/

namespace Fulfilment
namespace Concurrency

open Fulfilment.Workflow
open World

/-- Among these events, those with the same identifier are about the same order. -/
def Agreeing (expected : Envelope OrderCompleted → Prop) : Prop :=
  ∀ first second eventId, expected first → expected second →
    first.eventId = some eventId → second.eventId = some eventId →
      first.payload.orderId = second.payload.orderId

/-- An attempt that comes this far only if its order has a shipment. -/
def Phase.IsServed (phase : Phase) : Prop :=
  match phase with
  | .duplicate | .found _ | .entered _ | .ended (.ok _) => True
  | _ => False

/-- A call leads to such a phase only if it gives a value. -/
theorem Phase.isServed_after
    {held : Writes}
    {cause : ε → Cause}
    {result : Except ε α}
    {onward : α → Phase}
    (served : (Phase.after held cause result onward).IsServed) :
    ∃ value, (onward value).IsServed := by
  cases result with
  | ok value => exact ⟨value, served⟩
  | error error => exact absurd served id

variable
  {Attempt : Type}
  {task : Attempt → Task}
  {expected : Envelope OrderCompleted → Prop}
  {first : Tables}
  {world next : World Attempt}
  {attempt : Attempt}
  {orderId : Uuid}

/-- Whatever stands in the ledger is an expected event whose order has a shipment, and so has the
order of every attempt that has come far enough. -/
structure Served
    (expected : Envelope OrderCompleted → Prop)
    (task : Attempt → Task)
    (world : World Attempt) : Prop where
  listed : ∀ entry ∈ world.committed.ledger, ∃ envelope, expected envelope
    ∧ envelope.eventId = some entry.eventId
    ∧ world.committed.HasShipment envelope.payload.orderId
  shipped : ∀ attempt, (world.phase attempt).IsServed →
    world.committed.HasShipment (task attempt).envelope.payload.orderId

/-- Before anything is done nothing has to be shipped, if the ledger is empty. -/
theorem Served.start
    (expected : Envelope OrderCompleted → Prop)
    (task : Attempt → Task)
    (empty : first.ledger = []) : Served expected task (World.start first) where
  listed := fun entry member => by
    rw [World.start, empty] at member
    cases member
  shipped := fun _ impossible => absurd impossible id

/-- Sending commits nothing. -/
theorem Served.send
    (served : Served expected task world)
    (attempt : Attempt)
    (messages : List Message) : Served expected task (world.send attempt messages) :=
  ⟨served.listed, served.shipped⟩

/-- A known event is about an order that has a shipment. -/
theorem Served.hasShipment_of_isKnown
    (served : Served expected task world)
    (agreeing : Agreeing expected)
    (among : expected (task attempt).envelope)
    (known : (task attempt).IsKnown world.committed) :
    world.committed.HasShipment (task attempt).envelope.payload.orderId := by
  obtain ⟨eventId, identified, entry, member, about⟩ := known
  obtain ⟨envelope, isExpected, same, shipped⟩ := served.listed entry member
  rw [about] at same
  rw [agreeing _ _ eventId among isExpected identified same]
  exact shipped

/-- An order of which an attempt holds the announced shipment has none that is committed. -/
theorem World.Locked.not_announcing_of_hasShipment
    (locked : Locked task world)
    (shipped : world.committed.HasShipment orderId) :
    ¬ world.Announcing (AboutOrder orderId) := by
  rintro ⟨attempt, shipment, sequence, event, phase, rfl⟩
  exact (locked.shipments attempt shipment (writes_of_announced task phase).1).1.2 shipped

namespace World.Sound

/-- From tables without shipments, an order that has a shipment has one, which was announced
once. -/
theorem once
    (sound : Sound task first world)
    (none : first.shipmentsOf orderId = 0)
    (shipped : world.committed.HasShipment orderId) :
    world.committed.shipmentsOf orderId = 1 ∧ announcementsOf world.announcements orderId = 1 := by
  have settled := (sound.accounted.orders orderId).2
    (sound.locked.not_announcing_of_hasShipment shipped)
  have most := sound.locked.unique.shipmentsOf_le_one orderId
  have least := Tables.hasShipment_iff_pos.mp shipped
  omega

/-- From tables without shipments, no order has more than one, or more than one announcement. -/
theorem atMostOnce
    (sound : Sound task first world)
    (none : first.shipmentsOf orderId = 0) :
    world.committed.shipmentsOf orderId ≤ 1
      ∧ announcementsOf world.announcements orderId ≤ 1 := by
  have most := sound.locked.unique.shipmentsOf_le_one orderId
  refine ⟨most, ?_⟩
  obtain ⟨announced, settled⟩ := sound.accounted.orders orderId
  by_cases announcing : world.Announcing (AboutOrder orderId)
  · have unshipped : ¬ 0 < world.committed.shipmentsOf orderId := fun shipped =>
      sound.locked.not_announcing_of_hasShipment (Tables.hasShipment_iff_pos.mpr shipped) announcing
    have balance := announced announcing
    omega
  · have balance := settled announcing
    omega

end World.Sound

variable [DecidableEq Attempt]

namespace Served

/-- An attempt that goes on commits nothing. -/
theorem move
    {phase : Phase}
    (served : Served expected task world)
    (shipped : phase.IsServed →
      world.committed.HasShipment (task attempt).envelope.payload.orderId) :
    Served expected task (world.move attempt phase) where
  listed := served.listed
  shipped := fun other isServed => by
    by_cases same : other = attempt
    · subst same
      rw [phase_move_same] at isServed
      exact shipped isServed
    · rw [phase_move_other same] at isServed
      exact served.shipped other isServed

/-- A call that leads no attempt to be served keeps the others served. -/
theorem call
    {held : Writes}
    {cause : ε → Cause}
    {result : Except ε α}
    {onward : α → Phase}
    (served : Served expected task world)
    (unserved : ∀ value, ¬ (onward value).IsServed) :
    Served expected task (world.move attempt (.after held cause result onward)) :=
  served.move fun isServed => by
    obtain ⟨value, impossible⟩ := Phase.isServed_after isServed
    exact absurd impossible (unserved value)

/-- An attempt that commits a shipment or has found one leaves its order shipped. -/
theorem finish
    {result : Result}
    (served : Served expected task world)
    (fits : (world.phase attempt).Fits (task attempt))
    (among : expected (task attempt).envelope)
    (complete : (world.phase attempt).result? (task attempt).envelope.eventId = some result) :
    Served expected task (world.finish task attempt result) := by
  have grown (orderId : Uuid) (had : world.committed.HasShipment orderId) :
      (world.view task attempt).HasShipment orderId :=
    (Writes.hasShipment_onto _ _ _).mpr (.inl had)
  have done :
      (world.view task attempt).HasShipment (task attempt).envelope.payload.orderId := by
    cases phase : world.phase attempt with
    | announced shipment sequence event =>
        rw [phase] at fits
        obtain ⟨-, about, -⟩ := Task.eq_of_shipment_eq_ok fits.1
        exact (Writes.hasShipment_onto _ _ _).mpr
          (.inr ⟨shipment, (writes_of_announced task phase).1, about⟩)
    | duplicate | entered shipment =>
        exact grown _ (served.shipped attempt (by rw [phase]; trivial))
    | _ =>
        rw [phase] at complete
        cases complete
  refine ⟨fun entry member => ?_, fun other isServed => ?_⟩
  · rcases List.mem_append.mp member with old | new
    · obtain ⟨envelope, isExpected, identified, shipped⟩ := served.listed entry old
      exact ⟨envelope, isExpected, identified, grown _ shipped⟩
    · refine ⟨(task attempt).envelope, among, ?_, done⟩
      have own : (task attempt).ledgerRow? = some entry := by
        have written : entry ∈ ((world.phase attempt).writes (task attempt)).entry :=
          Option.mem_toList.mp new
        cases phase : world.phase attempt with
        | announced | entered =>
            rw [phase] at written
            exact written
        | duplicate =>
            rw [phase] at written
            cases written
        | _ =>
            rw [phase] at complete
            cases complete
      obtain ⟨eventId, identified, rfl⟩ := Option.map_eq_some_iff.mp own
      exact identified
  · by_cases same : other = attempt
    · subst same
      exact done
    · rw [World.finish, phase_move_other same] at isServed
      exact grown _ (served.shipped other isServed)

/-- A step of an attempt at an expected event keeps every attempt served. -/
theorem step
    (served : Served expected task world)
    (agreeing : Agreeing expected)
    (fits : ∀ attempt, (world.phase attempt).Fits (task attempt))
    (among : ∀ attempt, next.phase attempt ≠ world.phase attempt →
      expected (task attempt).envelope)
    (step : Step task world next) : Served expected task next := by
  cases step with
  | look attempt phase =>
      have seen : world.view task attempt = world.committed := by
        rw [World.view, writes_of_phase phase]
        exact Writes.onto_nothing _
      rw [seen] at among ⊢
      have wanted : expected (task attempt).envelope := by
        refine among attempt ?_
        rw [phase_move_same, phase]
        split <;> simp
      refine served.move fun isServed => ?_
      split at isServed
      · next known => exact served.hasShipment_of_isKnown agreeing wanted known
      · exact absurd isServed id
  | find attempt phase =>
      have seen : world.view task attempt = world.committed := by
        rw [World.view, writes_of_phase phase]
        exact Writes.onto_nothing _
      rw [seen]
      refine served.move fun isServed => ?_
      cases found : world.committed.shipmentOfOrder? (task attempt).envelope.payload.orderId with
      | some shipment => exact ⟨shipment, Tables.hasShipment_of_shipmentOfOrder? found⟩
      | none =>
          rw [found] at isServed
          exact absurd isServed id
  | enter attempt phase free =>
      exact served.move fun _ => served.shipped attempt (by rw [phase]; trivial)
  | place | number | mark => exact served.call fun _ => id
  | publish attempt phase sending => exact (served.send attempt _).call fun _ => id
  | refuse | abort | rollback => exact served.move fun impossible => absurd impossible id
  | @commit result attempt complete =>
      have wanted : expected (task attempt).envelope := by
        refine among attempt ?_
        rw [World.finish, phase_move_same]
        intro same
        rw [← same] at complete
        cases complete
      exact served.finish (fits attempt) wanted complete

end Served

/-- A step takes no shipment back. -/
theorem Step.hasShipment
    (step : Step task world next)
    (shipped : world.committed.HasShipment orderId) : next.committed.HasShipment orderId := by
  cases step with
  | commit => exact (Writes.hasShipment_onto _ _ _).mpr (.inl shipped)
  | look | find | enter | place | number | refuse | mark | publish | abort | rollback =>
      exact shipped

/-- A step takes no message back. -/
theorem Step.sent_prefix (step : Step task world next) : world.sent <+: next.sent := by
  cases step with
  | publish => exact List.prefix_append _ _
  | look | find | enter | place | number | refuse | mark | abort | commit | rollback =>
      exact List.prefix_rfl

end Concurrency
end Fulfilment
