import Fulfilment.Proofs.Workflow.Creation

/-!
# Processing carries out the plan

Each step of the processing of an order is said by one equation for a service whose session is
open and whose store has no faults.  Together they carry out the plan, up to the sending of the
event.
-/

namespace Fulfilment
namespace Service

open Fulfilment.Action Fulfilment.Change

/-- What an attempt at an order is made with when the service makes it. -/
def task
    (service : Service)
    (envelope : Envelope OrderCompleted) : Workflow.Task where
  envelope := envelope
  settings := service.settings
  clock := service.clock
  topic := service.events.topic
  routingKey := service.routingKey
  shippingId := service.identifier (service.issued + 1)
  eventId := service.identifier (service.issued + 2)

/-- The service with another session, number of issued identifiers and log. -/
def writing
    (service : Service)
    (store : Store)
    (issued : Nat)
    (log : List LogLine) : Service :=
  { service with store, issued, log }

/-- Writing keeps the settings. -/
@[simp]
theorem settings_writing
    (service : Service)
    (store : Store)
    (issued : Nat)
    (log : List LogLine) :
    (service.writing store issued log).settings = service.settings := rfl

/-- The session is open, has nothing pending, and has no faults ahead. -/
structure Rests
    (service : Service)
    (tables : Tables) : Prop where
  store : service.store = .ofTables tables
  faults : service.storeFaults = {}

/-- A task is about the event that it is made for. -/
@[simp]
theorem envelope_task
    (service : Service)
    (envelope : Envelope OrderCompleted) : (service.task envelope).envelope = envelope := rfl

/-- A task has the settings of the service that makes it. -/
@[simp]
theorem settings_task
    (service : Service)
    (envelope : Envelope OrderCompleted) :
    (service.task envelope).settings = service.settings := rfl

/-- A service at rest has nothing pending. -/
theorem Rests.writing
    {service : Service}
    {tables : Tables}
    (rests : service.Rests tables) :
    service.writing ⟨tables, tables, none⟩ service.issued service.log = service := by
  have same : service.store = ⟨tables, tables, none⟩ := rests.store
  rw [Service.writing, ← same]

/-- A change of the tables in an open session. -/
theorem perform_update
    (service : Service)
    (tables working : Tables)
    (issued : Nat)
    (log : List LogLine)
    (change : Tables → Except StoreError (α × Tables)) :
    (inStore fun store => store.update change).perform
        (service.writing ⟨tables, working, none⟩ issued log) =
      match change working with
      | .ok (value, next) => (.ok value, service.writing ⟨tables, next, none⟩ issued log)
      | .error error =>
          (.error (.store error),
            service.writing ⟨tables, tables, some error⟩ issued log) := by
  simp only [inStore, perform_bind, perform_get, perform_set, Store.update, Service.writing]
  cases change working with
  | ok result => rfl
  | error error => rfl

/-- A question in an open session. -/
theorem perform_ask
    (service : Service)
    (tables working : Tables)
    (issued : Nat)
    (log : List LogLine)
    (ask : Tables → α) :
    (askStore ask).perform (service.writing ⟨tables, working, none⟩ issued log) =
      (.ok (ask working), service.writing ⟨tables, working, none⟩ issued log) := rfl

end Service

namespace Workflow

open Fulfilment.Action Fulfilment.Change Fulfilment.Service

variable {service : Service}

/-- An event is looked up among the rows that the session sees. -/
theorem perform_isInLedger
    (faultless : service.storeFaults = {})
    (tables working : Tables)
    (issued : Nat)
    (log : List LogLine)
    (eventId : Uuid) :
    (isInLedger eventId).perform (service.writing ⟨tables, working, none⟩ issued log) =
      (.ok (decide (working.Knows eventId)),
        service.writing ⟨tables, working, none⟩ issued log) := by
  have found : decide (working.Knows eventId) = (Option.isSome <| working.entry? eventId) := by
    rw [Bool.eq_iff_iff, working.entry?_isSome_iff, decide_eq_true_iff]
  have unmissed :
      (service.writing ⟨tables, working, none⟩ issued log).storeFaults.missedEntries = 0 := by
    simp [Service.writing, faultless]
  simp only [isInLedger, perform_bind, perform_get, unmissed, perform_ask, found]

/-- The shipment of an order is looked up among the rows that the session sees. -/
theorem perform_findShipment
    (faultless : service.storeFaults = {})
    (tables working : Tables)
    (issued : Nat)
    (log : List LogLine)
    (orderId : Uuid) :
    (findShipment orderId).perform (service.writing ⟨tables, working, none⟩ issued log) =
      (.ok (working.shipmentOfOrder? orderId),
        service.writing ⟨tables, working, none⟩ issued log) := by
  have unmissed :
      (service.writing ⟨tables, working, none⟩ issued log).storeFaults.missedOrders = 0 := by
    simp [Service.writing, faultless]
  simp only [findShipment, perform_bind, perform_get, unmissed, perform_ask]

/-- A shipment is stored under the next identifier. -/
theorem perform_createShipment
    (faultless : service.storeFaults = {})
    (tables working : Tables)
    (log : List LogLine)
    (envelope : Envelope OrderCompleted) :
    (createShipment envelope.payload).perform
        (service.writing ⟨tables, working, none⟩ service.issued log) =
      match (service.task envelope).place working with
      | .ok (shipment, next) =>
          (.ok shipment, service.writing ⟨tables, next, none⟩ (service.issued + 1) log)
      | .error error =>
          (.error (.store error),
            service.writing ⟨tables, tables, some error⟩ (service.issued + 1) log) := by
  have possible :
      (service.writing ⟨tables, working, none⟩ service.issued log).storeFaults.creation =
        none := by
    simp [Service.writing, faultless]
  have issuing :
      newIdentifier.perform (service.writing ⟨tables, working, none⟩ service.issued log) =
        (.ok (service.identifier (service.issued + 1)),
          service.writing ⟨tables, working, none⟩ (service.issued + 1) log) := rfl
  simp only [createShipment, perform_bind, perform_get, possible, issuing,
    Store.createShipment, perform_update]
  simp only [Task.place, Task.shipment, Task.draft, Service.task, Service.writing]
  cases Tables.completeShipment (service.identifier (service.issued + 1)) _ with
  | error error => rfl
  | ok shipment =>
      simp only [Bind.bind, Except.bind]
      cases working.insertShipment shipment with
      | error error => rfl
      | ok next => rfl

/-- The line that tells of a number that was taken. -/
def allocationLine
    (key : String)
    (sequence : Int) : LogLine :=
  ⟨.sequences, .debug, s!"Allocated sequence {sequence} for partition '{key}'"⟩

/-- The number that a key is due is taken, and the log tells it. -/
theorem perform_nextSequence
    (service : Service)
    (tables working : Tables)
    (issued : Nat)
    (log : List LogLine)
    (key : String) :
    (nextSequence key).perform (service.writing ⟨tables, working, none⟩ issued log) =
      match working.allocate key with
      | .ok (sequence, next) =>
          (.ok sequence,
            service.writing ⟨tables, next, none⟩ issued (log ++ [allocationLine key sequence]))
      | .error error =>
          (.error (.store error),
            service.writing ⟨tables, tables, some error⟩ issued log) := by
  simp only [nextSequence, perform_bind, Store.allocate, perform_update]
  cases working.allocate key with
  | ok taken => rfl
  | error error => rfl

/-- The parts of an outbound envelope are checked. -/
theorem perform_checkOutbound
    (parts : Schema.Reading α)
    (state : Service) :
    (checkOutbound parts).perform state = (checked parts, state) := by
  cases parts <;> rfl

/-- The next identifier is the one after those that were issued. -/
theorem perform_newIdentifier
    (service : Service)
    (store : Store)
    (issued : Nat)
    (log : List LogLine) :
    newIdentifier.perform (service.writing store issued log) =
      (.ok (service.identifier (issued + 1)), service.writing store (issued + 1) log) := rfl

/-- The parts of an event that cannot be made cannot be made. -/
theorem checked_parts_of_outbound_eq_error
    {task : Task}
    {shipment : Shipment}
    {sequence : Int}
    {failure : Failure}
    (unsound : checked (task.outbound shipment sequence) = .error failure) :
    checked (outboundParts task.settings.serviceName sequence) = .error failure := by
  rw [Task.outbound, checked_map] at unsound
  cases parts : checked (outboundParts task.settings.serviceName sequence) with
  | ok pair =>
      rw [parts] at unsound
      cases unsound
  | error other =>
      rw [parts] at unsound
      cases unsound
      rfl

/-- An event that can be made is made of its parts. -/
theorem checked_parts_of_outbound_eq_ok
    {task : Task}
    {shipment : Shipment}
    {sequence : Int}
    {event : Envelope ShippingCreated}
    (sound : checked (task.outbound shipment sequence) = .ok event) :
    ∃ parts, checked (outboundParts task.settings.serviceName sequence) = .ok parts
      ∧ event = shippingCreated task.envelope shipment parts.1 task.eventId parts.2 := by
  rw [Task.outbound, checked_map] at sound
  cases parts : checked (outboundParts task.settings.serviceName sequence) with
  | ok pair =>
      rw [parts] at sound
      cases sound
      exact ⟨pair, rfl, rfl⟩
  | error other =>
      rw [parts] at sound
      cases sound

/-- An event is entered into the ledger, if it has an identifier. -/
theorem perform_markProcessed
    (service : Service)
    (tables working : Tables)
    (issued : Nat)
    (log : List LogLine)
    (envelope : Envelope OrderCompleted) :
    (markProcessed envelope).perform (service.writing ⟨tables, working, none⟩ issued log) =
      match (service.task envelope).enter working with
      | .ok next => (.ok (), service.writing ⟨tables, next, none⟩ issued log)
      | .error error =>
          (.error (.store error),
            service.writing ⟨tables, tables, some error⟩ issued log) := by
  cases identified : envelope.eventId with
  | none => simp [markProcessed, Task.enter, Task.ledgerRow?, identified]
  | some eventId =>
      simp only [markProcessed, identified, perform_bind, perform_get, Store.mark,
        perform_update, Task.enter, Task.ledgerRow?, envelope_task, Option.map_some,
        Tables.completeEntry, Tables.given]
      simp only [Bind.bind, Except.bind, pure, Except.pure, Service.task, Service.writing]
      cases working.insertEntry ⟨eventId, envelope.eventName, service.clock.wall⟩ with
      | error error => rfl
      | ok next => rfl

/-- How the processing of an order ends, given its plan. -/
inductive Processed
    (task : Task)
    (tables : Tables)
    (before : Service) : Except Failure Result → Service → Prop where
  /-- There is no plan, and nothing was committed. -/
  | refused {failure : Failure} {store : Store}
      (issued : Nat)
      (log : List LogLine)
      (planned : task.plan tables = .error failure)
      (kept : store.committed = tables) :
      Processed task tables before (.error failure) (before.writing store issued log)
  /-- The event was already acted upon. -/
  | duplicate
      (planned : task.plan tables = .ok .duplicate) :
      Processed task tables before
        (.ok (Plan.duplicate.result task.envelope.eventId)) before
  /-- The order has a shipment, and the ledger entry is written. -/
  | fulfilled {shipment : Shipment} {next : Tables}
      (planned : task.plan tables = .ok (.fulfilled shipment next)) :
      Processed task tables before
        (.ok ((Plan.fulfilled shipment next).result task.envelope.eventId))
        (before.writing ⟨tables, next, none⟩ before.issued before.log)
  /-- An event is published after all rows of the plan are written. -/
  | published {shipment : Shipment} {sequence : Int} {event : Envelope ShippingCreated}
      {next : Tables} {log : List LogLine} {published : Except Failure Unit} {after : Service}
      (planned : task.plan tables = .ok (.created shipment sequence event next))
      (publishing :
        (Publish.event (.shippingCreated event)).perform
          (before.writing ⟨tables, next, none⟩ (before.issued + 2) log) = (published, after)) :
      Processed task tables before
        (published.map fun _ =>
          (Plan.created shipment sequence event next).result task.envelope.eventId) after

/-- Without a plan of a creation, fulfilling an order fails as the plan does, and nothing was
committed. -/
theorem perform_fulfil_of_creation_eq_error
    {tables : Tables}
    {envelope : Envelope OrderCompleted}
    {failure : Failure}
    (faultless : service.storeFaults = {})
    (planned : (service.task envelope).creation tables = .error failure) :
    ∃ store issued log, store.committed = tables
      ∧ (fulfil envelope).perform
          (service.writing ⟨tables, tables, none⟩ service.issued service.log) =
        (.error failure, service.writing store issued log) := by
  have creating := perform_createShipment faultless tables tables service.log envelope
  rcases bind_eq_error planned with refused | ⟨⟨shipment, shipped⟩, placed, planned⟩
  · obtain ⟨error, rejected, rfl⟩ := stored_eq_error refused
    rw [rejected] at creating
    rw [fulfil, perform_bind_of_error _ creating]
    exact ⟨_, _, _, rfl, rfl⟩
  rw [stored_eq_ok placed] at creating
  rw [fulfil, perform_bind_of_ok _ creating]
  have allocating := perform_nextSequence service tables shipped (service.issued + 1) service.log
    envelope.resolvedKey
  rcases bind_eq_error planned with refused | ⟨⟨sequence, counted⟩, taken, planned⟩
  · obtain ⟨error, rejected, rfl⟩ := stored_eq_error refused
    rw [envelope_task] at rejected
    rw [rejected] at allocating
    rw [perform_bind_of_error _ allocating]
    exact ⟨_, _, _, rfl, rfl⟩
  have taken := stored_eq_ok taken
  rw [envelope_task] at taken
  rw [taken] at allocating
  rw [perform_bind_of_ok _ allocating, perform_bind_of_ok _ (perform_newIdentifier _ _ _ _),
    perform_bind_of_ok _ (perform_get _)]
  simp only [settings_writing]
  have checking := perform_checkOutbound (outboundParts service.settings.serviceName sequence)
    (service.writing ⟨tables, counted, none⟩ (service.issued + 2)
      (service.log ++ [allocationLine envelope.resolvedKey sequence]))
  rcases bind_eq_error planned with unsound | ⟨event, sound, planned⟩
  · have unsound := checked_parts_of_outbound_eq_error unsound
    rw [settings_task] at unsound
    rw [unsound] at checking
    rw [perform_bind_of_error _ checking]
    exact ⟨_, _, _, rfl, rfl⟩
  obtain ⟨parts, read, rfl⟩ := checked_parts_of_outbound_eq_ok sound
  rw [settings_task] at read
  rw [read] at checking
  rw [perform_bind_of_ok _ checking]
  have marking := perform_markProcessed service tables counted (service.issued + 2)
    (service.log ++ [allocationLine envelope.resolvedKey sequence]) envelope
  rcases bind_eq_error planned with refused | ⟨next, entered, planned⟩
  · obtain ⟨error, rejected, rfl⟩ := stored_eq_error refused
    rw [rejected] at marking
    rw [perform_bind_of_error _ marking]
    exact ⟨_, _, _, rfl, rfl⟩
  · cases planned

/-- With a plan of a creation, fulfilling an order comes to publishing the event after all rows of
the plan are written. -/
theorem perform_fulfil_of_creation_eq_ok
    {tables next : Tables}
    {envelope : Envelope OrderCompleted}
    {shipment : Shipment}
    {sequence : Int}
    {event : Envelope ShippingCreated}
    (faultless : service.storeFaults = {})
    (planned : (service.task envelope).creation tables =
      .ok (.created shipment sequence event next)) :
    ∃ log, (fulfil envelope).perform
        (service.writing ⟨tables, tables, none⟩ service.issued service.log) =
      (Publish.event (.shippingCreated event) >>= fun _ =>
        (return (Plan.created shipment sequence event next).result envelope.eventId :
          Action Result)).perform
        (service.writing ⟨tables, next, none⟩ (service.issued + 2) log) := by
  have creating := perform_createShipment faultless tables tables service.log envelope
  obtain ⟨⟨row, shipped⟩, placed, planned⟩ := bind_eq_ok planned
  rw [stored_eq_ok placed] at creating
  rw [fulfil, perform_bind_of_ok _ creating]
  have allocating := perform_nextSequence service tables shipped (service.issued + 1) service.log
    envelope.resolvedKey
  obtain ⟨⟨number, counted⟩, taken, planned⟩ := bind_eq_ok planned
  have taken := stored_eq_ok taken
  rw [envelope_task] at taken
  rw [taken] at allocating
  rw [perform_bind_of_ok _ allocating, perform_bind_of_ok _ (perform_newIdentifier _ _ _ _),
    perform_bind_of_ok _ (perform_get _)]
  simp only [settings_writing]
  have checking := perform_checkOutbound (outboundParts service.settings.serviceName number)
    (service.writing ⟨tables, counted, none⟩ (service.issued + 2)
      (service.log ++ [allocationLine envelope.resolvedKey number]))
  obtain ⟨created, sound, planned⟩ := bind_eq_ok planned
  obtain ⟨parts, read, rfl⟩ := checked_parts_of_outbound_eq_ok sound
  rw [settings_task] at read
  rw [read] at checking
  rw [perform_bind_of_ok _ checking]
  have marking := perform_markProcessed service tables counted (service.issued + 2)
    (service.log ++ [allocationLine envelope.resolvedKey number]) envelope
  obtain ⟨entered, entry, planned⟩ := bind_eq_ok planned
  rw [stored_eq_ok entry] at marking
  rw [perform_bind_of_ok _ marking]
  cases planned
  exact ⟨_, rfl⟩

/-- Fulfilling an order carries out the plan of a creation. -/
theorem processed_fulfil
    {tables : Tables}
    {after : Service}
    {envelope : Envelope OrderCompleted}
    {result : Except Failure Result}
    (rests : service.Rests tables)
    (planned : (service.task envelope).plan tables = (service.task envelope).creation tables)
    (performed : (fulfil envelope).perform service = (result, after)) :
    Processed (service.task envelope) tables service result after := by
  rw [← rests.writing] at performed
  cases creating : (service.task envelope).creation tables with
  | error failure =>
      obtain ⟨store, issued, log, kept, failed⟩ :=
        perform_fulfil_of_creation_eq_error rests.faults creating
      rw [failed] at performed
      cases performed
      exact .refused issued log (planned.trans creating) kept
  | ok plan =>
      obtain ⟨shipment, sequence, event, next, rfl⟩ := Task.created_of_creation creating
      obtain ⟨log, written⟩ := perform_fulfil_of_creation_eq_ok rests.faults creating
      rw [written] at performed
      cases publishing : (Publish.event (.shippingCreated event)).perform
          (service.writing ⟨tables, next, none⟩ (service.issued + 2) log) with
      | mk published last =>
          have ended := Processed.published (planned.trans creating) publishing
          cases published with
          | error failure =>
              rw [perform_bind_of_error _ publishing] at performed
              cases performed
              exact ended
          | ok _ =>
              rw [perform_bind_of_ok _ publishing] at performed
              cases performed
              exact ended

/-- An event that is in the ledger is a duplicate. -/
theorem perform_process_of_isKnown
    {tables : Tables}
    {envelope : Envelope OrderCompleted}
    (rests : service.Rests tables)
    (known : (service.task envelope).IsKnown tables) :
    (process envelope).perform service =
      (.ok { outcome := .duplicate, eventId := envelope.eventId }, service) := by
  obtain ⟨eventId, identified, known⟩ := known
  have identified : envelope.eventId = some eventId := identified
  have looking := perform_isInLedger rests.faults tables tables service.issued service.log eventId
  rw [rests.writing] at looking
  simp [process, perform_bind, identified, looking, known]

/-- An event that is not in the ledger is acted upon as the shipments demand. -/
theorem perform_process_of_not_isKnown
    {tables : Tables}
    {envelope : Envelope OrderCompleted}
    (rests : service.Rests tables)
    (unknown : ¬ (service.task envelope).IsKnown tables) :
    (process envelope).perform service =
      match tables.shipmentOfOrder? envelope.payload.orderId with
      | some shipment =>
          (markProcessed envelope >>= fun _ =>
            (return {
              outcome := .alreadyFulfilled
              eventId := envelope.eventId
              shippingId := some shipment.shippingId } : Action Result)).perform service
      | none => (fulfil envelope).perform service := by
  have finding := perform_findShipment rests.faults tables tables service.issued service.log
    envelope.payload.orderId
  rw [rests.writing] at finding
  cases identified : envelope.eventId with
  | none =>
      simp only [process, identified, perform_bind, perform_pure, Bool.false_eq_true, if_false,
        finding]
      cases tables.shipmentOfOrder? envelope.payload.orderId with
      | none => rfl
      | some shipment => simp only [perform_bind, perform_pure]
  | some eventId =>
      have looking := perform_isInLedger rests.faults tables tables service.issued service.log
        eventId
      have new : ¬ tables.Knows eventId := fun known => unknown ⟨eventId, identified, known⟩
      rw [rests.writing] at looking
      simp only [process, identified, perform_bind, looking, new, decide_false,
        Bool.false_eq_true, if_false, finding]
      cases tables.shipmentOfOrder? envelope.payload.orderId with
      | none => rfl
      | some shipment => simp only [perform_bind, perform_pure]

/-- Processing an order carries out its plan. -/
theorem processed_process
    {tables : Tables}
    {after : Service}
    {envelope : Envelope OrderCompleted}
    {result : Except Failure Result}
    (rests : service.Rests tables)
    (performed : (process envelope).perform service = (result, after)) :
    Processed (service.task envelope) tables service result after := by
  by_cases known : (service.task envelope).IsKnown tables
  · rw [perform_process_of_isKnown rests known] at performed
    cases performed
    exact .duplicate (by simp only [Task.plan, known, if_true]; rfl)
  · rw [perform_process_of_not_isKnown rests known] at performed
    cases found : tables.shipmentOfOrder? envelope.payload.orderId with
    | none =>
        simp only [found] at performed
        refine processed_fulfil rests ?_ performed
        simp only [Task.plan, known, if_false, envelope_task, found]
    | some shipment =>
        simp only [found] at performed
        have marking := perform_markProcessed service tables tables service.issued service.log
          envelope
        rw [rests.writing] at marking
        cases entered : (service.task envelope).enter tables with
        | error error =>
            rw [entered] at marking
            rw [perform_bind_of_error _ marking] at performed
            cases performed
            refine .refused _ _ ?_ rfl
            simp only [Task.plan, known, if_false, envelope_task, found, entered, stored_error,
              error_bind]
        | ok next =>
            rw [entered] at marking
            rw [perform_bind_of_ok _ marking] at performed
            cases performed
            refine .fulfilled ?_
            simp only [Task.plan, known, if_false, envelope_task, found, entered, stored_ok,
              ok_bind]
            rfl

end Workflow
end Fulfilment
