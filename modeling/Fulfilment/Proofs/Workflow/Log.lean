import Fulfilment.Proofs.Workflow.Attempt
import Fulfilment.Proofs.Workflow.Surroundings

/-!
# What an attempt tells

The log only grows.  An attempt at an order tells of no conflict, and where it tells that a number
was taken, the number is the one that the key of the order was due when the attempt began.
-/

namespace Fulfilment

/-- A line in which the workflow warns. -/
def LogLine.warns (line : LogLine) : Bool :=
  line.source = .workflow && line.level = .warning

namespace Service

/-- Some more lines were told, all of one kind. -/
def Told
    (before : Service)
    (kind : LogLine → Prop)
    (after : Service) : Prop :=
  ∃ lines, after.log = before.log ++ lines ∧ ∀ line ∈ lines, kind line

variable
  {before service after : Service}
  {kind : LogLine → Prop}

theorem Told.of_same
    (told : before.Told kind service)
    (same : after.log = service.log) : before.Told kind after := by
  rw [Told, same]
  exact told

theorem Told.refl (service : Service) : service.Told kind service :=
  ⟨[], by simp, by simp⟩

theorem Told.concat
    {line : LogLine}
    (told : before.Told kind service)
    (proper : kind line)
    (added : after.log = service.log ++ [line]) : before.Told kind after := by
  obtain ⟨lines, log, every⟩ := told
  refine ⟨lines ++ [line], by rw [added, log, List.append_assoc], ?_⟩
  intro other member
  rcases List.mem_append.mp member with member | member
  · exact every other member
  · rwa [List.mem_singleton.mp member]

end Service

namespace Change

variable {invariant : State → Prop}

theorem Keeps.attempt
    {change : Change State α}
    (keeps : Keeps invariant change) : Keeps invariant (attempt change) :=
  keeps

end Change

namespace Workflow

open Fulfilment.Action Fulfilment.Change Fulfilment.Service

section

variable
  {before : Service}
  {kind : LogLine → Prop}

/-- A change that leaves the log tells nothing. -/
theorem keeps_told_of_quiet
    {change : Action α}
    (quiet : ∀ service, (change.perform service).2.log = service.log) :
    Keeps (before.Told kind) change :=
  fun service told => told.of_same (quiet service)

theorem keeps_told_tell
    {source : LogSource}
    {level : LogLevel}
    {text : String}
    (proper : kind ⟨source, level, text⟩) : Keeps (before.Told kind) (tell source level text) :=
  fun _ told => told.concat proper rfl

theorem quiet_inStore
    (operation : Store → Except StoreError α × Store)
    (service : Service) : ((inStore operation).perform service).2.log = service.log := by
  simp only [inStore, perform_bind, perform_get, perform_set]
  cases (operation service.store).1 <;> rfl

theorem quiet_commit (service : Service) : (commit.perform service).2.log = service.log := by
  simp only [commit, perform_bind, perform_get, perform_set]
  cases service.storeFaults.commits.head?.join with
  | some failure => rfl
  | none => exact quiet_inStore _ _

theorem keeps_told_markProcessed (envelope : Envelope OrderCompleted) :
    Keeps (before.Told kind) (markProcessed envelope) := by
  unfold markProcessed
  cases envelope.eventId with
  | none => exact keeps_pure _
  | some eventId =>
      exact keeps_get.bind fun _ =>
        (keeps_told_of_quiet (quiet_inStore _)).bind fun _ => keeps_pure _

theorem keeps_told_checkOutbound (parts : Schema.Reading α) :
    Keeps (before.Told kind) (checkOutbound parts) := by
  cases parts with
  | ok value => exact keeps_pure value
  | invalid issues => exact keeps_fail _
  | outOfCalendar => exact keeps_fail _

/-- Connecting tells lines of the publisher. -/
theorem keeps_told_connect
    (publisher : ∀ level text, kind ⟨.publisher, level, text⟩)
    (channel : Channel) : Keeps (before.Told kind) channel.connect := by
  unfold Channel.connect
  refine keeps_get.bind fun service => ?_
  split
  · exact keeps_pure _
  · refine (keeps_told_of_quiet fun _ => rfl).bind fun fault => ?_
    cases fault with
    | some failure =>
        refine Keeps.bind ?_ fun _ => keeps_fail failure
        cases failure with
        | broker error => exact keeps_told_tell (publisher _ _)
        | _ => exact keeps_pure _
    | none =>
        refine (keeps_told_of_quiet fun _ => rfl).bind fun _ => ?_
        refine (keeps_told_of_quiet fun service => ?_).bind fun _ => keeps_told_tell (publisher _ _)
        cases channel <;> rfl

/-- Sending tells no more than connecting does. -/
theorem keeps_told_send
    (publisher : ∀ level text, kind ⟨.publisher, level, text⟩)
    (channel : Channel)
    (key : String)
    (value : Option Bytes)
    (headers : List Header) : Keeps (before.Told kind) (channel.send key value headers) := by
  unfold Channel.send
  refine (keeps_told_connect publisher channel).bind fun _ => keeps_get.bind fun service => ?_
  refine (keeps_told_of_quiet fun _ => rfl).bind fun fault => ?_
  split
  · exact keeps_fail _
  · exact (keeps_told_of_quiet fun _ => rfl).bind fun _ => keeps_fail _
  · exact keeps_told_of_quiet fun _ => rfl

/-- Publishing an event tells lines of the publisher. -/
theorem keeps_told_event
    (publisher : ∀ level text, kind ⟨.publisher, level, text⟩)
    (event : Event) : Keeps (before.Told kind) (Publish.event event) := by
  have published {payload : Type} (envelope : Envelope payload) (written : Bytes) :
      Keeps (before.Told kind) (Publish.envelope envelope written) := by
    unfold Publish.envelope
    refine keeps_get.bind fun service => ?_
    refine (keeps_told_send publisher _ _ _ _).attempt.bind fun ending => ?_
    cases ending with
    | ok _ => exact keeps_told_tell (publisher _ _)
    | error failure =>
        refine Keeps.bind ?_ fun _ => keeps_fail _
        cases failure with
        | broker error => exact keeps_told_tell (publisher _ _)
        | _ => exact keeps_pure _
  cases event with
  | orderCompleted completed => exact published completed _
  | shippingCreated created => exact published created _

end

/-- What an attempt may tell: no conflict, and of taken numbers only the one that is due. -/
structure Plain
    (tables : Tables)
    (key : String)
    (line : LogLine) : Prop where
  quiet : line.warns = false
  number : line.source = .sequences → line = allocationLine key (tables.due key)

variable
  {service : Service}
  {tables : Tables}
  {key : String}

theorem plain_publisher
    (level : LogLevel)
    (text : String) : Plain tables key ⟨.publisher, level, text⟩ :=
  ⟨rfl, fun other => by cases other⟩

/-- Fulfilling an order tells at most of the number that was due. -/
theorem told_fulfil
    {envelope : Envelope OrderCompleted}
    (rests : service.Rests tables) :
    service.Told (Plain tables envelope.resolvedKey) ((fulfil envelope).perform service).2 := by
  have creating := perform_createShipment rests.faults tables tables service.log envelope
  rw [rests.writing] at creating
  cases placed : (service.task envelope).place tables with
  | error error =>
      rw [placed] at creating
      rw [fulfil, perform_bind_of_error _ creating]
      exact (Told.refl service).of_same rfl
  | ok row =>
      obtain ⟨shipment, shipped⟩ := row
      rw [placed] at creating
      rw [fulfil, perform_bind_of_ok _ creating]
      obtain ⟨-, inserted⟩ := Task.eq_of_place_eq_ok placed
      obtain ⟨-, -, rfl⟩ := Tables.insertShipment_eq_ok_iff.mp inserted
      have allocating := perform_nextSequence service tables (tables.withShipment shipment)
        (service.issued + 1) service.log envelope.resolvedKey
      rw [Tables.allocate_eq] at allocating
      by_cases fits : (tables.withShipment shipment).due envelope.resolvedKey <
          Tables.greatestCounter
      · rw [if_pos fits] at allocating
        rw [perform_bind_of_ok _ allocating]
        -- What follows tells no number, so the line that was told stays the only one.
        refine Keeps.bind (keeps_told_of_quiet fun _ => rfl) (fun eventId => ?_) _
          ((Told.refl service).concat ⟨rfl, fun _ => rfl⟩ rfl)
        exact keeps_get.bind fun _ =>
          (keeps_told_checkOutbound _).bind fun _ =>
            (keeps_told_markProcessed envelope).bind fun _ =>
              (keeps_told_event plain_publisher _).bind fun _ => keeps_pure _
      · rw [if_neg fits] at allocating
        rw [perform_bind_of_error _ allocating]
        exact (Told.refl service).of_same rfl

/-- Processing an order tells at most of the number that was due. -/
theorem told_process
    {envelope : Envelope OrderCompleted}
    (rests : service.Rests tables) :
    service.Told (Plain tables envelope.resolvedKey) ((process envelope).perform service).2 := by
  by_cases known : (service.task envelope).IsKnown tables
  · rw [perform_process_of_isKnown rests known]
    exact .refl service
  · rw [perform_process_of_not_isKnown rests known]
    cases tables.shipmentOfOrder? envelope.payload.orderId with
    | none => exact told_fulfil rests
    | some shipment =>
        exact (keeps_told_markProcessed envelope).bind (fun _ => keeps_pure _) service
          (.refl service)

/-- A unit of work tells of no conflict, and at most of the number that was due. -/
theorem told_unitOfWork
    {envelope : Envelope OrderCompleted}
    (rests : service.Rests tables) :
    service.Told (Plain tables envelope.resolvedKey)
      ((unitOfWork envelope).perform service).2 := by
  have processing := @told_process service tables envelope rests
  have committing :
      service.Told (Plain tables envelope.resolvedKey)
        ((do
          let result ← process envelope
          commit
          return result : Action Result).perform service).2 := by
    rw [perform_bind]
    cases processed : (process envelope).perform service with
    | mk ending between =>
        rw [processed] at processing
        cases ending with
        | error failure => exact processing
        | ok result =>
            exact (keeps_told_of_quiet quiet_commit).bind (fun _ => keeps_pure _) between processing
  rw [unitOfWork, perform_bind_of_ok _ (perform_attempt _ _)]
  refine Keeps.bind (keeps_told_of_quiet fun _ => rfl) (fun _ => ?_) _ committing
  refine Keeps.bind (keeps_told_of_quiet fun _ => by rw [perform_resume]) fun result => ?_
  exact (keeps_told_tell ⟨rfl, fun other => by cases other⟩).bind fun _ => keeps_pure _

end Workflow
end Fulfilment
