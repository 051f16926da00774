import Fulfilment.Proofs.Concurrency.Accounts
import Fulfilment.Proofs.Concurrency.Alone

/-!
# Safety

However the steps of any number of attempts interleave, an order gets at most one shipment and an
event at most one ledger entry, a conflict is met before anything is sent, and between commits the
acknowledged messages tell exactly the shipments and the numbers that are committed.
-/

namespace Fulfilment
namespace Concurrency

open Fulfilment.Workflow
open World

namespace World

variable
  {Attempt : Type}
  {task : Attempt → Task}
  {first : Tables}
  {world next : World Attempt}

/-- An attempt has sent nothing. -/
def HasSentNothing
    (world : World Attempt)
    (attempt : Attempt) : Prop :=
  ∀ message, (attempt, message) ∉ world.sent

/-- What is so in every world that can be reached. -/
structure Sound
    (task : Attempt → Task)
    (first : Tables)
    (world : World Attempt) : Prop where
  locked : Locked task world
  fits : ∀ attempt, (world.phase attempt).Fits (task attempt)
  silent : ∀ attempt, (world.phase attempt).IsSilent → world.HasSentNothing attempt
  accounted : Accounted task first world

/-- Another attempt that sends does not make an attempt send. -/
theorem HasSentNothing.send
    {attempt other : Attempt}
    {messages : List Message}
    (silent : world.HasSentNothing other)
    (differs : messages = [] ∨ other ≠ attempt) :
    (world.send attempt messages).HasSentNothing other := by
  intro message member
  rcases List.mem_append.mp member with earlier | added
  · exact silent message earlier
  · obtain ⟨own, present, same⟩ := List.mem_map.mp added
    cases same
    rcases differs with rfl | differs
    · cases present
    · exact differs rfl

/-- A world in which nothing was done is sound. -/
theorem Sound.start
    (task : Attempt → Task)
    (unique : first.Unique) : Sound task first (start first) where
  locked := .start task unique
  fits := fun _ => trivial
  silent := fun _ _ _ => List.not_mem_nil
  accounted := .start task first

variable [DecidableEq Attempt]

/-- The phases of all attempts fit if that of the attempt that moves does. -/
theorem Sound.fits_move
    {phase : Phase}
    {attempt : Attempt}
    (sound : Sound task first world)
    (fits : phase.Fits (task attempt))
    (other : Attempt) : ((world.move attempt phase).phase other).Fits (task other) := by
  by_cases same : other = attempt
  · subst same
    rwa [phase_move_same]
  · rw [phase_move_other same]
    exact sound.fits other

/-- What a step does keeps the world sound. -/
theorem Sound.progress
    (sound : Sound task first world)
    (progress : Progress task world next) : Sound task first next := by
  cases progress with
  | @move phase attempt messages unacknowledged before after admits fits silent =>
      refine ⟨(sound.locked.move admits).send attempt messages, sound.fits_move fits, ?_,
        sound.accounted.move unacknowledged before after⟩
      intro other still
      by_cases same : other = attempt
      · subst same
        rw [phase_move_same] at still
        obtain ⟨earlier, nothing⟩ := silent still
        exact (sound.silent other earlier).send (.inl nothing)
      · rw [phase_move_other same] at still
        exact (sound.silent other still).send (.inr same)
  | @announce shipment sequence event attempt phase =>
      have fit := sound.fits attempt
      have admits : world.Admits task attempt
          ((Phase.announced shipment sequence event).writes (task attempt)) := by
        have own := sound.locked.admits attempt
        rwa [writes_of_phase phase] at own
      rw [phase] at fit
      have tells := Task.tells_of_outbound fit.2
      refine ⟨(sound.locked.move admits).send attempt _, sound.fits_move fit, ?_,
        sound.accounted.announce sound.locked phase tells tells.announced⟩
      intro other still
      by_cases same : other = attempt
      · subst same
        rw [phase_move_same] at still
        exact absurd still id
      · rw [phase_move_other same] at still
        exact (sound.silent other still).send (.inr same)
  | @finish result attempt complete =>
      refine ⟨sound.locked.finish attempt result, sound.fits_move trivial, ?_,
        sound.accounted.finish sound.locked complete⟩
      intro other still
      by_cases same : other = attempt
      · subst same
        rw [World.finish, phase_move_same] at still
        exact absurd still id
      · rw [World.finish, phase_move_other same] at still
        exact sound.silent other still

/-- Every world that can be reached from one that is sound is sound. -/
theorem Sound.reaches
    {start : World Attempt}
    (sound : Sound task first start)
    (reaches : Reaches task start world) : Sound task first world := by
  induction reaches with
  | refl => exact sound
  | step _ step ih => exact ih.progress (progress_of_step ih.locked ih.fits step)

end World

variable
  {Attempt : Type}
  [DecidableEq Attempt]
  {task : Attempt → Task}
  {first : Tables}
  {world : World Attempt}

/-- In every interleaving of any attempts, at most one shipment is committed for an order and one
ledger entry for an event, an attempt that ends in a conflict has sent nothing, and whenever no
attempt stands between its acknowledged event and its commit, every order has as many acknowledged
messages as committed shipments and every key has announced the numbers up to the one that it is
due. -/
theorem safe_of_reaches
    (earlier : List (Envelope ShippingCreated))
    (unique : first.Unique)
    (balanced : ∀ orderId, announcementsOf earlier orderId = first.shipmentsOf orderId)
    (reaches : Reaches task (World.start first) world) :
    (world.committed.shipments.map Shipment.orderId).Nodup
      ∧ (world.committed.ledger.map LedgerEntry.eventId).Nodup
      ∧ (∀ attempt column, world.phase attempt = .ended (.error (.conflict column)) →
        world.HasSentNothing attempt)
      ∧ ((∀ attempt, ¬ (world.phase attempt).IsAnnounced) →
        (∀ orderId,
          announcementsOf (earlier ++ world.announcements) orderId =
            world.committed.shipmentsOf orderId)
        ∧ ∀ key, ∃ count : Nat,
          numbersUnder world.announcements key = consecutive (first.due key) count
            ∧ world.committed.due key = first.due key + count) := by
  have sound := (Sound.start task unique).reaches reaches
  refine ⟨sound.locked.unique.orders, sound.locked.unique.events, ?_, fun quiet => ⟨?_, ?_⟩⟩
  · intro attempt column ended
    refine sound.silent attempt ?_
    rw [ended]
    trivial
  · intro orderId
    have settled := (sound.accounted.orders orderId).2 (World.not_announcing quiet _)
    rw [announcementsOf_append, balanced]
    omega
  · intro key
    obtain ⟨count, told, -, settled⟩ := sound.accounted.keys key
    exact ⟨count, told, (settled (World.not_announcing quiet _)).symm⟩

/-- The order at which two attempts are made. -/
def contestedOrder : Envelope OrderCompleted where
  eventName := EventType.orderCompleted.name
  eventVersion := EventType.version
  eventId := some (.numbered 1)
  correlationId := none
  causationId := none
  producer := "order-service"
  partitionKey := "contested"
  sequence := none
  occurredAt := ⟨⟨⟨2025, 1, 1, isDate_firstOf2025⟩, .midnight⟩⟩
  schemaRef := ""
  payload := {
    orderId := .numbered 2
    userId := .numbered 3
    timestamp := ⟨⟨⟨2025, 1, 1, isDate_firstOf2025⟩, .midnight⟩, none⟩ }

/-- Two attempts at one order. -/
def rival (first : Bool) : Task where
  envelope := contestedOrder
  settings := {}
  clock := contestedOrder.occurredAt
  topic := "events"
  routingKey := "shipping.created"
  shippingId := if first then .numbered 4 else .numbered 5
  eventId := .numbered 6

/-- One of two attempts at an order ships it between the look-ups and the writes of the other, which
then ends in a conflict. -/
theorem safe_of_reaches_rival :
    ∃ world : World Bool, Reaches rival (World.start {}) world
      ∧ (∃ result, world.phase true = .ended (.ok result))
      ∧ world.phase false = .ended (.error (.conflict (Tables.shipmentColumn "order_id")))
      ∧ world.HasSentNothing false
      ∧ ∀ orderId, announcementsOf world.announcements orderId =
        world.committed.shipmentsOf orderId := by
  have slower : Undisturbed rival (World.start {}) false := ⟨rfl, fun _ _ => rfl⟩
  have missing := slower.reaches_missing (by decide) rfl
  have faster : Undisturbed rival ((World.start {}).move false .missing) true := by
    refine ⟨rfl, fun other differs => ?_⟩
    cases other with
    | false => rfl
    | true => exact absurd rfl differs
  -- The faster attempt creates the shipment, and then its order is taken for the slower one.
  obtain ⟨shipment, sequence, event, next, planned, taken⟩ :
      ∃ shipment sequence event next,
        (rival true).plan {} = .ok (.created shipment sequence event next)
          ∧ (rival false).place next = .error (.taken (Tables.shipmentColumn "order_id")) :=
    ⟨_, _, _, _, rfl, rfl⟩
  obtain ⟨ending, same, created⟩ := faster.reaches_of_attempted (.created planned)
  obtain ⟨result, rfl⟩ : ∃ result, ending = .ok result := by
    cases ending with
    | ok result => exact ⟨result, rfl⟩
    | error cause => cases same
  obtain ⟨between, behind, seen, ahead, reached⟩ :
      ∃ between : World Bool, between.phase false = .missing ∧ between.view rival false = next
        ∧ between.phase true = .ended (.ok result) ∧ Reaches rival (World.start {}) between := by
    refine ⟨_, ?_, ?_, ?_, missing.trans created⟩
    · rfl
    · exact Writes.onto_nothing next
    · rfl
  have refused : Step rival between _ := .place false behind fun _ _ accepted => by
    rw [seen, taken] at accepted
    cases accepted
  rw [seen, taken] at refused
  have lost := Undisturbed.reaches_rollback (reached.step refused)
  have other : ∀ phase, (between.move false phase).phase true = .ended (.ok result) := by
    intro phase
    rwa [phase_move_other (by decide)]
  have unique : Tables.Unique {} := ⟨.nil, .nil, .nil⟩
  obtain ⟨-, -, silent, settled⟩ := safe_of_reaches [] unique (fun _ => rfl) lost
  have conflict := phase_move_same between false
    (.ended (.error (.conflict (Tables.shipmentColumn "order_id"))))
  refine ⟨_, lost, ⟨result, other _⟩, conflict, silent false _ conflict, (settled ?_).1⟩
  intro attempt
  cases attempt with
  | true =>
      rw [other]
      exact id
  | false =>
      rw [phase_move_same]
      exact id

end Concurrency
end Fulfilment
