import Fulfilment.Proofs.Concurrency.World
import Fulfilment.Proofs.Workflow.Creation

/-!
# What sessions hold

What an attempt has written is new to the committed tables and is held by no other attempt, from
the moment at which it is written until the attempt ends.  This is so in every world that can be
reached, since a step either writes under such a lock, or gives up what it holds, or commits it.
-/

namespace Fulfilment
namespace Concurrency

open Fulfilment.Workflow

namespace Phase

/-- What a phase tells about the shipment and the event of its attempt. -/
def Fits
    (phase : Phase)
    (task : Task) : Prop :=
  match phase with
  | .placed shipment | .numbered shipment _ => task.shipment = .ok shipment
  | .marked shipment sequence event | .announced shipment sequence event =>
      task.shipment = .ok shipment ∧ checked (task.outbound shipment sequence) = .ok event
  | _ => True

/-- An attempt that cannot have sent anything: it has not come to publishing, or it has met a
unique key that was taken. -/
def IsSilent (phase : Phase) : Prop :=
  match phase with
  | .announced _ _ _ | .failing (.other _) _ | .ended (.ok _) | .ended (.error (.other _)) => False
  | _ => True

end Phase

namespace Writes

/-- Nothing that is written changes nothing. -/
@[simp]
theorem onto_nothing (tables : Tables) : onto {} tables = tables := by
  simp [onto]

/-- The identifiers in use are those of the tables and of the shipment that is written. -/
theorem uses_onto
    (writes : Writes)
    (tables : Tables)
    (shippingId : Uuid) :
    (writes.onto tables).Uses shippingId ↔
      tables.Uses shippingId ∨ ∃ shipment ∈ writes.shipment, shipment.shippingId = shippingId := by
  simp [onto, Tables.Uses, or_and_right, exists_or]

/-- The orders that have a shipment are those of the tables and of the shipment that is written. -/
theorem hasShipment_onto
    (writes : Writes)
    (tables : Tables)
    (orderId : Uuid) :
    (writes.onto tables).HasShipment orderId ↔
      tables.HasShipment orderId ∨ ∃ shipment ∈ writes.shipment, shipment.orderId = orderId := by
  simp [onto, Tables.HasShipment, or_and_right, exists_or]

/-- The known events are those of the tables and of the entry that is written. -/
theorem knows_onto
    (writes : Writes)
    (tables : Tables)
    (eventId : Uuid) :
    (writes.onto tables).Knows eventId ↔
      tables.Knows eventId ∨ ∃ entry ∈ writes.entry, entry.eventId = eventId := by
  simp [onto, Tables.Knows, or_and_right, exists_or]

/-- A key whose number was not taken is due what it was. -/
theorem due_onto_of_other
    {writes : Writes}
    {key : String}
    (others : ∀ taken ∈ writes.number, taken.1 ≠ key)
    (tables : Tables) : (writes.onto tables).due key = tables.due key := by
  cases number : writes.number with
  | none => simp [onto, Tables.due, number]
  | some taken =>
      have differs : key ≠ taken.1 := Ne.symm (others taken number)
      simp only [onto, Tables.due, number, Counters.next?_set_other differs]

/-- A key whose number was taken is due the one after it. -/
theorem due_onto_of_taken
    {writes : Writes}
    {key : String}
    {sequence : Int}
    (taken : writes.number = some (key, sequence))
    (tables : Tables) : (writes.onto tables).due key = sequence + 1 := by
  simp [onto, Tables.due, taken]

/-- What is new to the tables keeps their keys unique. -/
theorem unique_onto
    {writes : Writes}
    {tables : Tables}
    (unique : tables.Unique)
    (shipment : ∀ shipment ∈ writes.shipment,
      ¬ tables.Uses shipment.shippingId ∧ ¬ tables.HasShipment shipment.orderId)
    (entry : ∀ entry ∈ writes.entry, ¬ tables.Knows entry.eventId) :
    (writes.onto tables).Unique := by
  have shipped : (tables.shipments ++ writes.shipment.toList).map Shipment.shippingId |>.Nodup := by
    cases written : writes.shipment with
    | none => simpa using unique.shippingIds
    | some new => exact Tables.nodup_map_append unique.shippingIds (shipment new written).1
  have ordered : (tables.shipments ++ writes.shipment.toList).map Shipment.orderId |>.Nodup := by
    cases written : writes.shipment with
    | none => simpa using unique.orders
    | some new => exact Tables.nodup_map_append unique.orders (shipment new written).2
  have listed : (tables.ledger ++ writes.entry.toList).map LedgerEntry.eventId |>.Nodup := by
    cases written : writes.entry with
    | none => simpa using unique.events
    | some new => exact Tables.nodup_map_append unique.events (entry new written)
  exact ⟨shipped, ordered, listed⟩

end Writes

namespace World

variable
  {Attempt : Type}
  {task : Attempt → Task}
  {world : World Attempt}

/-- Everything that is held is good, and differs from whatever other attempts hold. -/
def Guarded
    (held : Attempt → Option Resource)
    (differ : Resource → Resource → Prop)
    (good : Resource → Prop) : Prop :=
  ∀ attempt, ∀ resource ∈ held attempt, good resource ∧ Apart held differ attempt resource

/-- Where nothing is held, everything that is held is good. -/
theorem Guarded.of_nothing
    {held : Attempt → Option Resource}
    {differ : Resource → Resource → Prop}
    {good : Resource → Prop}
    (nothing : ∀ attempt, held attempt = none) : Guarded held differ good := by
  intro attempt resource holds
  rw [nothing attempt] at holds
  cases holds

/-- An attempt may come to hold what is good and differs from whatever other attempts hold. -/
theorem Guarded.hold
    {held next : Attempt → Option Resource}
    {differ : Resource → Resource → Prop}
    {good : Resource → Prop}
    (guarded : Guarded held differ good)
    (attempt : Attempt)
    (symmetric : ∀ first second, differ first second → differ second first)
    (admitted : ∀ resource ∈ next attempt,
      good resource ∧ Apart held differ attempt resource)
    (others : ∀ other, other ≠ attempt → next other = held other) :
    Guarded next differ good := by
  intro holder resource holds
  by_cases same : holder = attempt
  · subst same
    obtain ⟨sound, apart⟩ := admitted resource holds
    refine ⟨sound, fun other differs taken takes => ?_⟩
    rw [others other differs] at takes
    exact apart other differs taken takes
  · rw [others holder same] at holds
    obtain ⟨sound, apart⟩ := guarded holder resource holds
    refine ⟨sound, fun other differs taken takes => ?_⟩
    by_cases moved : other = attempt
    · subst moved
      -- What the attempt takes was checked against this holder, so the old lock is the new one.
      exact symmetric _ _ ((admitted taken takes).2 holder same resource holds)
    · rw [others other moved] at takes
      exact apart other differs taken takes

/-- What the others hold stays good when an attempt hands in what it held, if only what clashes
with that is made worse. -/
theorem Guarded.release
    {held next : Attempt → Option Resource}
    {differ : Resource → Resource → Prop}
    {good better : Resource → Prop}
    (guarded : Guarded held differ good)
    (attempt : Attempt)
    (released : next attempt = none)
    (others : ∀ other, other ≠ attempt → next other = held other)
    (kept : ∀ resource, good resource → (∀ taken ∈ held attempt, differ taken resource) →
      better resource) :
    Guarded next differ better := by
  intro holder resource holds
  by_cases same : holder = attempt
  · subst same
    rw [released] at holds
    cases holds
  · rw [others holder same] at holds
    obtain ⟨sound, apart⟩ := guarded holder resource holds
    refine ⟨kept resource sound (apart attempt (Ne.symm same)), fun other differs taken takes => ?_⟩
    by_cases moved : other = attempt
    · subst moved
      rw [released] at takes
      cases takes
    · rw [others other moved] at takes
      exact apart other differs taken takes

/-- A shipment that the tables do not clash with. -/
def IsNewShipment
    (tables : Tables)
    (shipment : Shipment) : Prop :=
  ¬ tables.Uses shipment.shippingId ∧ ¬ tables.HasShipment shipment.orderId

/-- A number that the tables have due. -/
def IsDue
    (tables : Tables)
    (taken : String × Int) : Prop :=
  taken.2 = tables.due taken.1

/-- A ledger entry that the tables do not clash with. -/
def IsNewEntry
    (tables : Tables)
    (entry : LedgerEntry) : Prop :=
  ¬ tables.Knows entry.eventId

/-- The committed tables have unique keys, and what attempts hold is new to them and differs
between attempts. -/
structure Locked
    (task : Attempt → Task)
    (world : World Attempt) : Prop where
  unique : world.committed.Unique
  shipments : Guarded (world.shipments task) ShipmentsDiffer (IsNewShipment world.committed)
  numbers : Guarded (world.numbers task) KeysDiffer (IsDue world.committed)
  entries : Guarded (world.entries task) EventsDiffer (IsNewEntry world.committed)

/-- Nothing is held before anything is done. -/
theorem Locked.start
    {tables : Tables}
    (task : Attempt → Task)
    (unique : tables.Unique) : Locked task (start tables) where
  unique := unique
  shipments := .of_nothing fun _ => rfl
  numbers := .of_nothing fun _ => rfl
  entries := .of_nothing fun _ => rfl

/-- Sending keeps the locks. -/
theorem Locked.send
    (locked : Locked task world)
    (attempt : Attempt)
    (messages : List Message) : Locked task (world.send attempt messages) :=
  ⟨locked.unique, locked.shipments, locked.numbers, locked.entries⟩

/-- What an attempt may come to hold. -/
structure Admits
    (world : World Attempt)
    (task : Attempt → Task)
    (attempt : Attempt)
    (writes : Writes) : Prop where
  shipment : ∀ shipment ∈ writes.shipment,
    IsNewShipment world.committed shipment
      ∧ Apart (world.shipments task) ShipmentsDiffer attempt shipment
  number : ∀ taken ∈ writes.number,
    IsDue world.committed taken ∧ Apart (world.numbers task) KeysDiffer attempt taken
  entry : ∀ entry ∈ writes.entry,
    IsNewEntry world.committed entry ∧ Apart (world.entries task) EventsDiffer attempt entry

/-- An attempt may hold nothing. -/
theorem Admits.nothing
    (world : World Attempt)
    (task : Attempt → Task)
    (attempt : Attempt) : world.Admits task attempt {} where
  shipment := by simp
  number := by simp
  entry := by simp

/-- An attempt may hold what it holds. -/
theorem Locked.admits
    (locked : Locked task world)
    (attempt : Attempt) : world.Admits task attempt (world.writes task attempt) where
  shipment := locked.shipments attempt
  number := locked.numbers attempt
  entry := locked.entries attempt

/-- Nothing that is sent changes nothing. -/
@[simp]
theorem send_nil
    (world : World Attempt)
    (attempt : Attempt) : world.send attempt [] = world := by
  simp [send]

variable
  [DecidableEq Attempt]
  {attempt other : Attempt}

/-- An attempt that moves comes to its phase. -/
@[simp]
theorem phase_move_same
    (world : World Attempt)
    (attempt : Attempt)
    (phase : Phase) : (world.move attempt phase).phase attempt = phase := by
  simp [move]

/-- The other attempts stay where they are. -/
theorem phase_move_other
    (differs : other ≠ attempt)
    (world : World Attempt)
    (phase : Phase) : (world.move attempt phase).phase other = world.phase other := by
  simp [move, differs]

/-- What another attempt holds after a move is what it held, or what the move has written. -/
theorem writes_move
    (world : World Attempt)
    (task : Attempt → Task)
    (attempt other : Attempt)
    (phase : Phase) :
    (world.move attempt phase).writes task other =
      if other = attempt then phase.writes (task attempt) else world.writes task other := by
  by_cases same : other = attempt
  · subst same
    simp [writes]
  · simp [writes, phase_move_other same, same]

/-- An attempt that moves to what it may hold keeps the locks. -/
theorem Locked.move
    {phase : Phase}
    (locked : Locked task world)
    (admits : world.Admits task attempt (phase.writes (task attempt))) :
    Locked task (world.move attempt phase) where
  unique := locked.unique
  shipments := by
    refine locked.shipments.hold attempt (fun _ _ differ => ⟨differ.1.symm, differ.2.symm⟩) ?_ ?_
    · simpa [World.shipments, writes_move] using admits.shipment
    · intro other differs
      simp [World.shipments, writes_move, differs]
  numbers := by
    refine locked.numbers.hold attempt (fun _ _ differ => differ.symm) ?_ ?_
    · simpa [World.numbers, writes_move] using admits.number
    · intro other differs
      simp [World.numbers, writes_move, differs]
  entries := by
    refine locked.entries.hold attempt (fun _ _ differ => differ.symm) ?_ ?_
    · simpa [World.entries, writes_move] using admits.entry
    · intro other differs
      simp [World.entries, writes_move, differs]

/-- An attempt that commits holds nothing any more, and the others what they held. -/
theorem writes_finish
    (world : World Attempt)
    (task : Attempt → Task)
    (attempt other : Attempt)
    (result : Result) :
    (world.finish task attempt result).writes task other =
      if other = attempt then {} else world.writes task other :=
  writes_move world task attempt other (.ended (.ok result))

/-- An attempt that commits what it holds keeps the locks of the others. -/
theorem Locked.finish
    (locked : Locked task world)
    (attempt : Attempt)
    (result : Result) : Locked task (world.finish task attempt result) where
  unique :=
    Writes.unique_onto locked.unique
      (fun shipment member => (locked.shipments attempt shipment member).1)
      (fun entry member => (locked.entries attempt entry member).1)
  shipments := by
    refine locked.shipments.release attempt (by simp [World.shipments, writes_finish]) ?_ ?_
    · intro other differs
      simp [World.shipments, writes_finish, differs]
    · rintro shipment ⟨unused, unshipped⟩ differ
      refine ⟨?_, ?_⟩
      · rw [World.finish, view, Writes.uses_onto]
        rintro (used | ⟨held, holds, same⟩)
        · exact unused used
        · exact (differ held holds).1 same
      · rw [World.finish, view, Writes.hasShipment_onto]
        rintro (shipped | ⟨held, holds, same⟩)
        · exact unshipped shipped
        · exact (differ held holds).2 same
  numbers := by
    refine locked.numbers.release attempt (by simp [World.numbers, writes_finish]) ?_ ?_
    · intro other differs
      simp [World.numbers, writes_finish, differs]
    · intro taken due differ
      rw [IsDue, World.finish, view, Writes.due_onto_of_other differ]
      exact due
  entries := by
    refine locked.entries.release attempt (by simp [World.entries, writes_finish]) ?_ ?_
    · intro other differs
      simp [World.entries, writes_finish, differs]
    · intro entry unknown differ
      rw [IsNewEntry, World.finish, view, Writes.knows_onto]
      rintro (known | ⟨held, holds, same⟩)
      · exact unknown known
      · exact differ held holds same

end World
end Concurrency
end Fulfilment
