import Fulfilment.Proofs.Concurrency.Locks

/-!
# What a step can do

Seen from the tables and the broker, a step does one of three things.  An attempt moves on or
gives up, at most with messages that the broker has not acknowledged; or the broker acknowledges
its event; or it commits.  Whatever it writes on the way it may write.
-/

namespace Fulfilment
namespace Concurrency

open Fulfilment.Workflow
open World

/-- An attempt that may still fail on its own has not been announced. -/
theorem Phase.IsOpen.not_isAnnounced
    {phase : Phase}
    (isOpen : phase.IsOpen) : ¬ phase.IsAnnounced := by
  cases phase <;> simp_all [Phase.IsOpen, Phase.IsAnnounced]

/-- An attempt that may still fail on its own has sent nothing. -/
theorem Phase.IsOpen.isSilent
    {phase : Phase}
    (isOpen : phase.IsOpen) : phase.IsSilent := by
  cases phase <;> simp_all [Phase.IsOpen, Phase.IsSilent]

variable
  {Attempt : Type}
  {task : Attempt → Task}

/-- A ledger entry that a session accepts is new to the committed tables. -/
theorem isNewEntry_of_enter
    {world : World Attempt}
    {attempt : Attempt}
    {entered : Tables}
    (accepted : (task attempt).enter (world.view task attempt) = .ok entered)
    (entry : LedgerEntry)
    (own : entry ∈ (task attempt).ledgerRow?) : IsNewEntry world.committed entry := by
  have identified : (task attempt).ledgerRow? = some entry := own
  rw [Task.enter, identified] at accepted
  obtain ⟨unknown, -⟩ := Tables.insertEntry_eq_ok_iff.mp accepted
  rw [World.view, Writes.knows_onto] at unknown
  exact fun known => unknown (.inl known)

/-- A shipment that a session accepts is new to the committed tables. -/
theorem isNewShipment_of_place
    {world : World Attempt}
    {attempt : Attempt}
    {shipment : Shipment}
    {shipped : Tables}
    (accepted : (task attempt).place (world.view task attempt) = .ok (shipment, shipped)) :
    IsNewShipment world.committed shipment := by
  obtain ⟨unused, unshipped, -⟩ :=
    Tables.insertShipment_eq_ok_iff.mp (Task.eq_of_place_eq_ok accepted).2
  rw [World.view, Writes.uses_onto] at unused
  rw [World.view, Writes.hasShipment_onto] at unshipped
  exact ⟨fun used => unused (.inl used), fun shipped => unshipped (.inl shipped)⟩

/-- A number that a session without one takes is due in the committed tables. -/
theorem isDue_of_allocate
    {world : World Attempt}
    {attempt : Attempt}
    {key : String}
    {taken : Int × Tables}
    (numberless : (world.writes task attempt).number = none)
    (accepted : (world.view task attempt).allocate key = .ok taken) :
    IsDue world.committed (key, taken.1) := by
  obtain ⟨due, -⟩ := Tables.allocate_eq_ok_iff.mp accepted
  rw [World.view, Writes.due_onto_of_other (by simp [numberless])] at due
  exact due

/-- What an attempt has written follows from its phase. -/
theorem writes_of_phase
    {world : World Attempt}
    {attempt : Attempt}
    {phase : Phase}
    (at' : world.phase attempt = phase) :
    world.writes task attempt = phase.writes (task attempt) := by
  rw [World.writes, at']

variable
  [DecidableEq Attempt]
  {world next : World Attempt}

/-- What a step does, seen from the tables and the broker. -/
inductive Progress
    (task : Attempt → Task)
    (world : World Attempt) : World Attempt → Prop where
  /-- An attempt goes on, at most with messages that are not acknowledged. -/
  | move {phase : Phase}
      (attempt : Attempt)
      (messages : List Message)
      (unacknowledged : ∀ message ∈ messages, message.acknowledged = false)
      (before : ¬ (world.phase attempt).IsAnnounced)
      (after : ¬ phase.IsAnnounced)
      (admits : world.Admits task attempt (phase.writes (task attempt)))
      (fits : phase.Fits (task attempt))
      (silent : phase.IsSilent → (world.phase attempt).IsSilent ∧ messages = []) :
      Progress task world ((world.send attempt messages).move attempt phase)
  /-- The broker acknowledges the event of an attempt. -/
  | announce {shipment : Shipment} {sequence : Int} {event : Envelope ShippingCreated}
      (attempt : Attempt)
      (phase : world.phase attempt = .marked shipment sequence event) :
      Progress task world
        ((world.send attempt [{ (task attempt).message event with acknowledged := true }]).move
          attempt (.announced shipment sequence event))
  /-- An attempt commits. -/
  | finish {result : Result}
      (attempt : Attempt)
      (complete : (world.phase attempt).result? (task attempt).envelope.eventId = some result) :
      Progress task world (world.finish task attempt result)

namespace Progress

/-- An attempt that may still fail on its own goes on without a message. -/
theorem quiet
    {phase : Phase}
    (attempt : Attempt)
    (isOpen : (world.phase attempt).IsOpen)
    (after : ¬ phase.IsAnnounced)
    (admits : world.Admits task attempt (phase.writes (task attempt)))
    (fits : phase.Fits (task attempt)) : Progress task world (world.move attempt phase) := by
  have moved : Progress task world ((world.send attempt []).move attempt phase) :=
    .move attempt [] (by simp) isOpen.not_isAnnounced after admits fits
      fun _ => ⟨isOpen.isSilent, rfl⟩
  simpa using moved

/-- An attempt that has written nothing goes on without a message. -/
theorem idle
    {phase : Phase}
    (attempt : Attempt)
    (isOpen : (world.phase attempt).IsOpen)
    (after : ¬ phase.IsAnnounced)
    (nothing : phase.writes (task attempt) = {})
    (fits : phase.Fits (task attempt)) : Progress task world (world.move attempt phase) := by
  refine quiet attempt isOpen after ?_ fits
  rw [nothing]
  exact .nothing world task attempt

/-- A call lets an attempt go on or makes it give up. -/
theorem call
    {cause : ε → Cause}
    {result : Except ε α}
    {onward : α → Phase}
    (locked : Locked task world)
    (attempt : Attempt)
    (isOpen : (world.phase attempt).IsOpen)
    (accepted : ∀ value, result = .ok value →
      ¬ (onward value).IsAnnounced
        ∧ world.Admits task attempt ((onward value).writes (task attempt))
        ∧ (onward value).Fits (task attempt)) :
    Progress task world
      (world.move attempt (.after (world.writes task attempt) cause result onward)) := by
  cases result with
  | error error => exact quiet attempt isOpen id (locked.admits attempt) trivial
  | ok value =>
      obtain ⟨after, admits, fits⟩ := accepted value rfl
      exact quiet attempt isOpen after admits fits

end Progress

/-- Every step is one of the three things.  Only publishing and committing are not moves. -/
theorem progress_of_step
    (locked : Locked task world)
    (fits : ∀ attempt, (world.phase attempt).Fits (task attempt))
    (step : Step task world next) : Progress task world next := by
  cases step with
  | look attempt phase =>
      have isOpen : (world.phase attempt).IsOpen := by simp [phase, Phase.IsOpen]
      split
      · exact .idle attempt isOpen id rfl trivial
      · exact .idle attempt isOpen id rfl trivial
  | find attempt phase =>
      have isOpen : (world.phase attempt).IsOpen := by simp [phase, Phase.IsOpen]
      unfold Phase.lookedUp
      split
      · exact .idle attempt isOpen id rfl trivial
      · exact .idle attempt isOpen id rfl trivial
  | enter attempt phase free =>
      refine .call locked attempt (by simp [phase, Phase.IsOpen]) fun entered accepted =>
        ⟨id, ⟨by simp [Phase.writes], by simp [Phase.writes], ?_⟩, trivial⟩
      intro entry own
      exact ⟨isNewEntry_of_enter accepted entry own, free entered accepted entry own⟩
  | place attempt phase free =>
      refine .call locked attempt (by simp [phase, Phase.IsOpen]) fun row accepted =>
        ⟨id, ⟨?_, by simp [Phase.writes], by simp [Phase.writes]⟩, ?_⟩
      · intro shipment own
        cases own
        exact ⟨isNewShipment_of_place accepted, free row.1 row.2 accepted⟩
      · exact (Task.eq_of_place_eq_ok accepted).1
  | @number shipment attempt phase free =>
      have held : world.writes task attempt = (Phase.placed shipment).writes (task attempt) :=
        writes_of_phase phase
      have own := locked.admits attempt
      rw [held] at own
      -- The shipment is held on, so only the number has to be free.
      refine .call locked attempt (by simp [phase, Phase.IsOpen]) fun taken accepted =>
        ⟨id, ⟨own.shipment, ?_, by simp [Phase.writes]⟩, ?_⟩
      · intro number member
        cases member
        exact ⟨isDue_of_allocate (by rw [held]; rfl) accepted, free taken.1⟩
      · have fit := fits attempt
        rwa [phase] at fit
  | refuse attempt phase unsound =>
      exact .quiet attempt (by simp [phase, Phase.IsOpen]) id (locked.admits attempt) trivial
  | @mark shipment sequence event attempt phase sound free =>
      have own := locked.admits attempt
      rw [writes_of_phase phase] at own
      refine .call locked attempt (by simp [phase, Phase.IsOpen]) fun entered accepted =>
        ⟨id, ⟨own.shipment, own.number, ?_⟩, ?_⟩
      · intro entry member
        exact ⟨isNewEntry_of_enter accepted entry member, free entered accepted entry member⟩
      · have fit := fits attempt
        rw [phase] at fit
        exact ⟨fit, sound⟩
  | @publish shipment sequence event published messages attempt phase sending =>
      have before : ¬ (world.phase attempt).IsAnnounced := by simp [phase, Phase.IsAnnounced]
      have own := locked.admits attempt
      cases sending with
      | acknowledged => exact .announce attempt phase
      | lost failure =>
          exact .move attempt _ (by simp) before id own trivial False.elim
      | unsent failure =>
          exact .move attempt _ (by simp) before id own trivial False.elim
  | abort attempt failure isOpen =>
      exact .quiet attempt isOpen id (locked.admits attempt) trivial
  | commit attempt complete => exact .finish attempt complete
  | @rollback cause held attempt phase =>
      have moved : Progress task world ((world.send attempt []).move attempt
          (.ended (.error cause))) :=
        .move attempt [] (by simp) (by simp [phase, Phase.IsAnnounced]) id
          (.nothing world task attempt) trivial fun silent => by
            rw [phase]
            cases cause with
            | conflict column => exact ⟨trivial, rfl⟩
            | other failure => exact absurd silent id
      simpa using moved

end Concurrency
end Fulfilment
