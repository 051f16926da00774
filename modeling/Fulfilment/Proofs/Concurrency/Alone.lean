import Fulfilment.Proofs.Concurrency.Locks
import Fulfilment.Proofs.Workflow.Attempt

/-!
# An attempt that nobody disturbs

While the other attempts hold nothing, an attempt can take its steps one after the other.  These
are then the steps of a unit of work: it carries out the same plan, sends the same messages,
commits the same tables, and gives up for the same failure.
-/

namespace Fulfilment
namespace Concurrency

open Fulfilment.Workflow
open World

/-- The cause that an error of the store is leads to the failure that it is. -/
@[simp]
theorem Cause.toFailure_ofStore (error : StoreError) :
    (Cause.ofStore error).toFailure = .store error := by
  cases error <;> rfl

/-- A shipment that is written is one more in the tables. -/
theorem Writes.onto_shipment
    (shipment : Shipment)
    (tables : Tables) :
    onto { shipment := some shipment } tables = tables.withShipment shipment := by
  simp [onto, Tables.withShipment]

/-- A shipment and a number that are written are in the tables. -/
theorem Writes.onto_number
    (shipment : Shipment)
    (key : String)
    (sequence : Int)
    (tables : Tables) :
    onto { shipment := some shipment, number := some (key, sequence) } tables =
      (tables.withShipment shipment).withTaken key sequence := by
  simp [onto, Tables.withShipment, Tables.withTaken]

/-- A shipment, a number and an entry that are written are in the tables. -/
theorem Writes.onto_all
    (shipment : Shipment)
    (key : String)
    (sequence : Int)
    (entry : Option LedgerEntry)
    (tables : Tables) :
    onto { shipment := some shipment, number := some (key, sequence), entry } tables =
      ((tables.withShipment shipment).withTaken key sequence).withEntry entry := by
  simp [onto, Tables.withShipment, Tables.withTaken, Tables.withEntry]

/-- An entry that is written is in the tables. -/
theorem Writes.onto_entry
    (entry : Option LedgerEntry)
    (tables : Tables) : onto { entry } tables = tables.withEntry entry := by
  simp [onto, Tables.withEntry]

variable
  {Attempt : Type}
  [DecidableEq Attempt]
  {task : Attempt → Task}
  {world : World Attempt}
  {attempt : Attempt}

/-- What is reached from a world that is reached is reached. -/
theorem Reaches.trans
    {first last : World Attempt}
    (before : Reaches task first world)
    (after : Reaches task world last) : Reaches task first last := by
  induction after with
  | refl => exact before
  | step _ step ih => exact .step ih step

/-- Only the last move of an attempt counts. -/
@[simp]
theorem World.move_move
    (world : World Attempt)
    (attempt : Attempt)
    (first last : Phase) :
    (world.move attempt first).move attempt last = world.move attempt last := by
  simp only [World.move, World.mk.injEq, true_and]
  funext other
  split <;> rfl

/-- An attempt that has not begun among attempts that hold nothing. -/
structure Undisturbed
    (task : Attempt → Task)
    (world : World Attempt)
    (attempt : Attempt) : Prop where
  phase : world.phase attempt = .begun
  alone : ∀ other, other ≠ attempt → world.writes task other = {}

namespace Undisturbed

/-- An attempt sees what it has written over the committed tables. -/
theorem view
    (world : World Attempt)
    (task : Attempt → Task)
    (attempt : Attempt)
    (phase : Phase) :
    (world.move attempt phase).view task attempt =
      (phase.writes (task attempt)).onto world.committed := by
  rw [World.view, writes_move, if_pos rfl]
  rfl

/-- Nothing keeps an undisturbed attempt from writing. -/
theorem apart
    {held : Writes → Option Resource}
    (undisturbed : Undisturbed task world attempt)
    (nothing : held {} = none)
    (phase : Phase)
    (differ : Resource → Resource → Prop)
    (resource : Resource) :
    Apart (fun other => held ((world.move attempt phase).writes task other)) differ attempt
      resource := by
  intro other differs taken takes
  simp only [writes_move, if_neg differs, undisturbed.alone other differs, nothing] at takes
  cases takes

/-- The event is looked up. -/
theorem reaches_look (undisturbed : Undisturbed task world attempt) :
    Reaches task world (world.move attempt
      (if (task attempt).IsKnown world.committed then .duplicate else .unlisted)) := by
  have seen : world.view task attempt = world.committed := by
    rw [World.view, World.writes, undisturbed.phase]
    exact Writes.onto_nothing _
  have looked : Step task world _ := .look attempt undisturbed.phase
  rw [seen] at looked
  exact .step .refl looked

/-- The shipment of the order is looked up. -/
theorem reaches_find
    (reached : Reaches task world (world.move attempt .unlisted)) :
    Reaches task world (world.move attempt
      (.lookedUp
        (world.committed.shipmentOfOrder? (task attempt).envelope.payload.orderId))) := by
  have found : Step task (world.move attempt .unlisted) _ := .find attempt (phase_move_same _ _ _)
  rw [view, move_move, Phase.writes, Writes.onto_nothing] at found
  exact reached.step found

/-- The event of an order that has a shipment is entered. -/
theorem reaches_enter
    {shipment : Shipment}
    (undisturbed : Undisturbed task world attempt)
    (reached : Reaches task world (world.move attempt (.found shipment))) :
    Reaches task world (world.move attempt
      (.after {} .ofStore ((task attempt).enter world.committed) fun _ => .entered shipment)) := by
  have entered : Step task (world.move attempt (.found shipment)) _ :=
    .enter attempt (phase_move_same _ _ _) fun _ _ entry _ =>
      undisturbed.apart rfl (.found shipment) EventsDiffer entry
  rw [view, move_move, writes_move, if_pos rfl] at entered
  simpa [Phase.writes] using reached.step entered

/-- The shipment is stored. -/
theorem reaches_place
    (undisturbed : Undisturbed task world attempt)
    (reached : Reaches task world (world.move attempt .missing)) :
    Reaches task world (world.move attempt
      (.after {} .ofStore ((task attempt).place world.committed) fun row => .placed row.1)) := by
  have placed : Step task (world.move attempt .missing) _ :=
    .place attempt (phase_move_same _ _ _) fun shipment _ _ =>
      undisturbed.apart rfl .missing ShipmentsDiffer shipment
  rw [view, move_move, writes_move, if_pos rfl] at placed
  simpa [Phase.writes] using reached.step placed

/-- The number is taken. -/
theorem reaches_number
    {shipment : Shipment}
    (undisturbed : Undisturbed task world attempt)
    (reached : Reaches task world (world.move attempt (.placed shipment))) :
    Reaches task world (world.move attempt
      (.after { shipment := some shipment } .ofStore
        ((world.committed.withShipment shipment).allocate (task attempt).envelope.resolvedKey)
        fun taken => .numbered shipment taken.1)) := by
  have taken : Step task (world.move attempt (.placed shipment)) _ :=
    .number attempt (phase_move_same _ _ _) fun sequence =>
      undisturbed.apart rfl (.placed shipment) KeysDiffer _
  rw [view, move_move, writes_move, if_pos rfl] at taken
  simpa [Phase.writes, Writes.onto_shipment] using reached.step taken

/-- The event about the shipment is made, and the event of the order entered. -/
theorem reaches_mark
    {shipment : Shipment}
    {sequence : Int}
    {event : Envelope ShippingCreated}
    (undisturbed : Undisturbed task world attempt)
    (reached : Reaches task world (world.move attempt (.numbered shipment sequence)))
    (sound : checked ((task attempt).outbound shipment sequence) = .ok event) :
    Reaches task world (world.move attempt
      (.after
        { shipment := some shipment
          number := some ((task attempt).envelope.resolvedKey, sequence) }
        .ofStore
        ((task attempt).enter ((world.committed.withShipment shipment).withTaken
          (task attempt).envelope.resolvedKey sequence))
        fun _ => .marked shipment sequence event)) := by
  have marked : Step task (world.move attempt (.numbered shipment sequence)) _ :=
    .mark attempt (phase_move_same _ _ _) sound fun _ _ entry _ =>
      undisturbed.apart rfl (.numbered shipment sequence) EventsDiffer entry
  rw [view, move_move, writes_move, if_pos rfl] at marked
  simpa [Phase.writes, Writes.onto_number] using reached.step marked

/-- An attempt that gives up rolls back. -/
theorem reaches_rollback
    {first : World Attempt}
    {cause : Cause}
    {held : Writes}
    (reached : Reaches task first (world.move attempt (.failing cause held))) :
    Reaches task first (world.move attempt (.ended (.error cause))) := by
  have undone : Step task (world.move attempt (.failing cause held)) _ :=
    .rollback attempt (phase_move_same _ _ _)
  rw [move_move] at undone
  exact reached.step undone

/-- An attempt whose call of the store fails ends with that failure. -/
theorem reaches_rollback_after
    {held : Writes}
    {result : Except StoreError α}
    {onward : α → Phase}
    {error : StoreError}
    (reached : Reaches task world (world.move attempt (.after held .ofStore result onward)))
    (refused : result = .error error) :
    ∃ cause, cause.toFailure = .store error
      ∧ Reaches task world (world.move attempt (.ended (.error cause))) := by
  subst refused
  exact ⟨.ofStore error, Cause.toFailure_ofStore error, reaches_rollback reached⟩

/-- The order of an event that is not known has no shipment, as far as the attempt can see. -/
theorem reaches_missing
    (undisturbed : Undisturbed task world attempt)
    (unknown : ¬ (task attempt).IsKnown world.committed)
    (unshipped :
      world.committed.shipmentOfOrder? (task attempt).envelope.payload.orderId = none) :
    Reaches task world (world.move attempt .missing) := by
  have looked := undisturbed.reaches_look
  rw [if_neg unknown] at looked
  have found := reaches_find looked
  rw [unshipped] at found
  exact found

/-- An attempt comes to publishing if its plan is to create a shipment. -/
theorem reaches_marked
    {shipment : Shipment}
    {sequence : Int}
    {event : Envelope ShippingCreated}
    {next : Tables}
    (undisturbed : Undisturbed task world attempt)
    (planned : (task attempt).plan world.committed =
      .ok (.created shipment sequence event next)) :
    Reaches task world (world.move attempt (.marked shipment sequence event)) := by
  obtain ⟨unknown, creates⟩ := Task.justified_of_plan planned
  have unshipped := Tables.shipmentOfOrder?_eq_none_iff.mpr creates.unshipped
  have missing := undisturbed.reaches_missing unknown unshipped
  rw [Task.plan_of_no_shipment unknown unshipped] at planned
  obtain ⟨⟨row, shipped⟩, placed, planned⟩ := bind_eq_ok planned
  obtain ⟨⟨number, counted⟩, taken, planned⟩ := bind_eq_ok planned
  obtain ⟨created, sound, planned⟩ := bind_eq_ok planned
  obtain ⟨entered, entry, planned⟩ := bind_eq_ok planned
  cases planned
  have placing := undisturbed.reaches_place missing
  rw [stored_eq_ok placed] at placing
  obtain ⟨-, inserted⟩ := Task.eq_of_place_eq_ok (stored_eq_ok placed)
  obtain ⟨-, -, rfl⟩ := Tables.insertShipment_eq_ok_iff.mp inserted
  have numbering := undisturbed.reaches_number placing
  rw [stored_eq_ok taken] at numbering
  obtain ⟨-, -, rfl⟩ := Tables.allocate_eq_ok_iff.mp (stored_eq_ok taken)
  have marking := undisturbed.reaches_mark numbering sound
  rw [stored_eq_ok entry] at marking
  exact marking

/-- An attempt without a plan ends with the failure to make one. -/
theorem reaches_ended_of_plan_eq_error
    {failure : Failure}
    (undisturbed : Undisturbed task world attempt)
    (planned : (task attempt).plan world.committed = .error failure) :
    ∃ cause, cause.toFailure = failure
      ∧ Reaches task world (world.move attempt (.ended (.error cause))) := by
  obtain ⟨unknown, unshipped⟩ := Task.new_of_plan_eq_error planned
  have unshipped := Tables.shipmentOfOrder?_eq_none_iff.mpr unshipped
  rw [Task.plan_of_no_shipment unknown unshipped] at planned
  have placing := undisturbed.reaches_place (undisturbed.reaches_missing unknown unshipped)
  rcases bind_eq_error planned with refused | ⟨⟨shipment, shipped⟩, placed, planned⟩
  · obtain ⟨error, rejected, rfl⟩ := stored_eq_error refused
    exact reaches_rollback_after placing rejected
  rw [stored_eq_ok placed] at placing
  obtain ⟨-, inserted⟩ := Task.eq_of_place_eq_ok (stored_eq_ok placed)
  obtain ⟨-, -, rfl⟩ := Tables.insertShipment_eq_ok_iff.mp inserted
  have numbering := undisturbed.reaches_number placing
  rcases bind_eq_error planned with refused | ⟨⟨sequence, counted⟩, taken, planned⟩
  · obtain ⟨error, rejected, rfl⟩ := stored_eq_error refused
    exact reaches_rollback_after numbering rejected
  rw [stored_eq_ok taken] at numbering
  obtain ⟨-, -, rfl⟩ := Tables.allocate_eq_ok_iff.mp (stored_eq_ok taken)
  rcases bind_eq_error planned with unsound | ⟨event, sound, planned⟩
  · have refused : Step task (world.move attempt (.numbered shipment sequence)) _ :=
      .refuse attempt (phase_move_same _ _ _) unsound
    rw [move_move] at refused
    exact ⟨.other failure, rfl, reaches_rollback (numbering.step refused)⟩
  have marking := undisturbed.reaches_mark numbering sound
  rcases bind_eq_error planned with refused | ⟨entered, entry, planned⟩
  · obtain ⟨error, rejected, rfl⟩ := stored_eq_error refused
    exact reaches_rollback_after marking rejected
  · cases planned

/-- An attempt commits what it has written. -/
theorem reaches_commit
    {first : World Attempt}
    {phase : Phase}
    {result : Result}
    {next : Tables}
    (reached : Reaches task first (world.move attempt phase))
    (complete : phase.result? (task attempt).envelope.eventId = some result)
    (written : (phase.writes (task attempt)).onto world.committed = next) :
    Reaches task first
      { world.move attempt (.ended (.ok result)) with committed := next } := by
  have committed : Step task (world.move attempt phase) _ :=
    .commit attempt ((congrArg (Phase.result? · _) (phase_move_same _ _ _)).trans complete)
  rw [World.finish, move_move, view, written] at committed
  exact reached.step committed

/-- An attempt to create a shipment publishes the event, and commits if the event was
acknowledged. -/
theorem reaches_publish
    {shipment : Shipment}
    {sequence : Int}
    {event : Envelope ShippingCreated}
    {published : Except Failure Unit}
    {messages : List Message}
    (reached : Reaches task world (world.move attempt (.marked shipment sequence event)))
    (sending : Sending ((task attempt).message event) published messages) :
    Reaches task world ((world.send attempt messages).move attempt
      (.after ((Phase.marked shipment sequence event).writes (task attempt)) .other published
        fun _ => .announced shipment sequence event)) := by
  have publishing : Step task (world.move attempt (.marked shipment sequence event)) _ :=
    .publish attempt (phase_move_same _ _ _) sending
  have same : (world.move attempt (.marked shipment sequence event)).send attempt messages =
      (world.send attempt messages).move attempt (.marked shipment sequence event) := rfl
  rw [same, move_move, writes_move, if_pos rfl] at publishing
  exact reached.step publishing

/-- Whatever an attempt comes to on its own, it can come to by its steps. -/
theorem reaches_of_attempted
    {result : Except Failure Result}
    {next : Tables}
    {sent : List Message}
    (undisturbed : Undisturbed task world attempt)
    (attempted : Attempted (task attempt) world.committed result next sent) :
    ∃ ending, ending.mapError Cause.toFailure = result
      ∧ Reaches task world
        { (world.send attempt sent).move attempt (.ended ending) with committed := next } := by
  cases attempted with
  | refused planned =>
      obtain ⟨cause, rfl, reached⟩ := undisturbed.reaches_ended_of_plan_eq_error planned
      refine ⟨.error cause, rfl, ?_⟩
      rw [World.send_nil]
      exact reached
  | duplicate planned =>
      have looked := undisturbed.reaches_look
      have known : (task attempt).IsKnown world.committed := Task.justified_of_plan planned
      rw [if_pos known] at looked
      refine ⟨.ok _, rfl, ?_⟩
      rw [World.send_nil]
      exact reaches_commit looked rfl (Writes.onto_nothing _)
  | fulfilled planned =>
      obtain ⟨unknown, found, rfl⟩ := Task.justified_of_plan planned
      have looked := undisturbed.reaches_look
      rw [if_neg unknown] at looked
      have finding := reaches_find looked
      rw [found] at finding
      have entering := undisturbed.reaches_enter finding
      rw [Task.enter_of_not_isKnown unknown] at entering
      refine ⟨.ok _, rfl, ?_⟩
      rw [World.send_nil]
      exact reaches_commit entering rfl (Writes.onto_entry _ _)
  | unpublished planned sending =>
      have publishing := reaches_publish (undisturbed.reaches_marked planned) sending
      exact ⟨.error (.other _), rfl, reaches_rollback publishing⟩
  | created planned =>
      have publishing := reaches_publish (undisturbed.reaches_marked planned) .acknowledged
      obtain ⟨-, creates⟩ := Task.justified_of_plan planned
      refine ⟨.ok _, rfl, reaches_commit publishing rfl ?_⟩
      rw [creates.next]
      exact Writes.onto_all _ _ _ _ _

/-- Whatever a unit of work does, an attempt that nobody disturbs can do by its steps. -/
theorem reaches_unitOfWork
    {service after : Service}
    {envelope : Envelope OrderCompleted}
    {result : Except Failure Result}
    (undisturbed : Undisturbed task world attempt)
    (rests : service.Rests world.committed)
    (made : task attempt = service.task envelope)
    (performed : (unitOfWork envelope).perform service = (result, after)) :
    ∃ ending sent, ending.mapError Cause.toFailure = result
      ∧ after.broker.sent = service.broker.sent ++ sent
      ∧ Reaches task world
        { (world.send attempt sent).move attempt (.ended ending) with
          committed := after.store.committed } := by
  obtain ⟨next, sent, attempted, continues⟩ := attempted_unitOfWork rests performed
  rw [← made] at attempted
  obtain ⟨ending, same, reached⟩ := undisturbed.reaches_of_attempted attempted
  refine ⟨ending, sent, same, continues.sent, ?_⟩
  rw [continues.rests.store]
  exact reached

end Undisturbed
end Concurrency
end Fulfilment
