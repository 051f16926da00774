import Fulfilment.Proofs.Contention.Interference
import Fulfilment.Proofs.Publish.Obstacle
import Fulfilment.Proofs.Workflow.Process

/-!
# An attempt amid the commits of others

An attempt that meets a conflict leaves tables in which the row that it conflicts with is committed:
only a committed row can be in the way, since before its inserts an attempt has no row of its own
in the same table.  An attempt that finds its event in the ledger is a duplicate, and one that finds
a shipment of its order does not insert any.
-/

namespace Fulfilment
namespace Workflow

open Fulfilment.Action Fulfilment.Change Fulfilment.Service

/-- The column of which two ledger entries cannot agree. -/
def eventColumn : Column := Tables.ledgerColumn "event_id"

/-- The column of which two shipments cannot agree, beside their identifier. -/
def orderColumn : Column := Tables.shipmentColumn "order_id"

/-- The event of an envelope is in the ledger. -/
def KnownIn
    (envelope : Envelope OrderCompleted)
    (tables : Tables) : Prop :=
  ∃ eventId ∈ envelope.eventId, tables.Knows eventId

/-- Tables that have only gained rows that others commit. -/
inductive Grown
    (others : StoreCall → Tables)
    (tables : Tables) : Tables → Prop where
  | refl : Grown others tables tables
  | absorb {next : Tables}
      (grown : Grown others tables next)
      (call : StoreCall) : Grown others tables (next.absorb (others call))

namespace Grown

variable
  {others : StoreCall → Tables}
  {tables next : Tables}

theorem hasShipment
    {orderId : Uuid}
    (grown : Grown others tables next)
    (shipped : tables.HasShipment orderId) : next.HasShipment orderId := by
  induction grown with
  | refl => exact shipped
  | absorb _ call ih => exact ih.absorb _

theorem unused
    {shippingId : Uuid}
    (grown : Grown others tables next)
    (unused : ¬ tables.Uses shippingId)
    (foreign : ∀ call, ¬ (others call).Uses shippingId) : ¬ next.Uses shippingId := by
  induction grown with
  | refl => exact unused
  | absorb _ call ih =>
      rw [Tables.uses_absorb_iff]
      rintro (used | used)
      · exact ih used
      · exact foreign call used

end Grown

/-- A service at rest in which nothing but a row that others commit can cause a conflict: every
column of a shipment is given, no fault of the broker is a conflict, and the identifiers to come are
used by nobody. -/
structure Fair
    (others : Interference)
    (service : Service)
    (tables : Tables) : Prop where
  rests : service.Rests tables
  method : service.settings.shippingMethod.isSome = true
  carrier : service.settings.carrier.isSome = true
  connecting : ∀ failure, some failure ∈ service.broker.connectFaults → failure.isConflict = false
  sending : ∀ fault, some fault ∈ service.broker.sendFaults → fault.failure.isConflict = false
  unused : ∀ index, service.issued < index → ¬ tables.Uses (service.identifier index)
  foreign : ∀ index, service.issued < index →
    ∀ number call, ¬ (others number call).Uses (service.identifier index)

/-- A shipment that is refused is one of an order that is already shipped, if its columns are given
and its identifier is new. -/
theorem Task.place_eq_error
    {task : Task}
    {tables : Tables}
    {error : StoreError}
    (method : task.settings.shippingMethod.isSome = true)
    (carrier : task.settings.carrier.isSome = true)
    (unused : ¬ tables.Uses task.shippingId)
    (refused : task.place tables = .error error) :
    error = .taken orderColumn ∧ tables.HasShipment task.envelope.payload.orderId := by
  obtain ⟨name, named⟩ := Option.isSome_iff_exists.mp method
  obtain ⟨carrying, carried⟩ := Option.isSome_iff_exists.mp carrier
  have complete : task.shipment = .ok ⟨task.shippingId, task.envelope.payload.orderId,
      task.envelope.payload.userId, warehouse, name, carrying, task.clock.wall⟩ := by
    simp only [Task.shipment, Tables.completeShipment, Task.draft, Tables.given, named, carried]
    rfl
  rcases bind_eq_error refused with incomplete | ⟨row, placed, refused⟩
  · cases complete.symm.trans incomplete
  · cases complete.symm.trans placed
    rcases bind_eq_error refused with taken | ⟨next, _, refused⟩
    · simp only [Tables.insertShipment, Tables.isSome_shipment?, Tables.isSome_shipmentOfOrder?,
        unused, if_false] at taken
      split at taken
      · next shipped =>
          cases taken
          exact ⟨rfl, shipped⟩
      · cases taken
    · cases refused

/-- A ledger entry that is refused is one of a known event. -/
theorem Task.enter_eq_error
    {task : Task}
    {tables : Tables}
    {error : StoreError}
    (refused : task.enter tables = .error error) :
    error = .taken eventColumn ∧ KnownIn task.envelope tables := by
  by_cases known : task.IsKnown tables
  · refine ⟨?_, known⟩
    obtain ⟨eventId, identified, known⟩ := known
    have identified : task.envelope.eventId = some eventId := identified
    simp only [Task.enter, Task.ledgerRow?, identified, Option.map_some, Tables.insertEntry,
      Tables.entry?_isSome_iff, known, if_true] at refused
    cases refused
    rfl
  · cases (Task.enter_of_not_isKnown known).symm.trans refused

theorem allocate_eq_error
    {tables : Tables}
    {key : String}
    {error : StoreError}
    (refused : tables.allocate key = .error error) : error = .tooLarge := by
  simp only [Tables.allocate] at refused
  split at refused
  · cases refused
  · cases refused
    rfl

theorem not_isConflict_of_checked
    {reading : Schema.Reading α}
    {failure : Failure}
    (unsound : checked reading = .error failure) : failure.isConflict = false := by
  cases reading with
  | ok value => cases unsound
  | invalid issues =>
      cases unsound
      rfl
  | outOfCalendar =>
      cases unsound
      rfl

theorem mem_of_head?_join
    {faults : List (Option α)}
    {fault : α}
    (next : faults.head?.join = some fault) : some fault ∈ faults :=
  List.mem_of_mem_head? (Option.join_eq_some_iff.mp next)

/-- What stands in the way of a message is no conflict if no fault to come is one. -/
theorem not_isConflict_of_obstacle
    {service : Service}
    {channel : Channel}
    {obstacle : Obstacle}
    (connecting : ∀ failure, some failure ∈ service.broker.connectFaults →
      failure.isConflict = false)
    (sending : ∀ fault, some fault ∈ service.broker.sendFaults →
      fault.failure.isConflict = false)
    (met : service.obstacle? channel = some obstacle) : obstacle.failure.isConflict = false := by
  unfold Service.obstacle? at met
  split at met
  · next failure unconnected =>
      cases met
      unfold Service.connectFault? at unconnected
      split at unconnected
      · cases unconnected
      · exact connecting failure (mem_of_head?_join unconnected)
  · obtain ⟨fault, next, rfl⟩ := Option.map_eq_some_iff.mp met
    exact sending fault (mem_of_head?_join next)

theorem isConflict_eventFailure
    (topic : String)
    (cause : Failure) : (Publish.eventFailure topic cause).isConflict = cause.isConflict := by
  cases cause <;> rfl

/-- Publishing an event leaves the store, and its failure is no conflict if no fault to come is
one. -/
theorem perform_event
    {service after : Service}
    {event : Envelope ShippingCreated}
    {result : Except Failure Unit}
    (connecting : ∀ failure, some failure ∈ service.broker.connectFaults →
      failure.isConflict = false)
    (sending : ∀ fault, some fault ∈ service.broker.sendFaults →
      fault.failure.isConflict = false)
    (performed : (Publish.event (.shippingCreated event)).perform service = (result, after)) :
    after.store = service.store ∧ after.storeFaults = service.storeFaults
      ∧ ∀ failure, result = .error failure → failure.isConflict = false := by
  obtain ⟨uses, -⟩ := Publish.sends_envelope performed
  refine ⟨uses.store, uses.storeFaults, ?_⟩
  rintro failure rfl
  simp only [Publish.event, Publish.envelope, perform_bind, perform_get, perform_attempt]
    at performed
  cases publishing : (Channel.send .events event.partitionKey
      (some (Event.shippingCreated event).encode)
      (Publish.eventHeaders service.routingKey event)).perform service with
  | mk published between =>
      obtain ⟨-, sent, -, settled⟩ := Channel.perform_send publishing
      simp only [publishing] at performed
      cases met : service.obstacle? .events with
      | none =>
          rw [met] at settled
          cases settled
          cases performed
      | some obstacle =>
          rw [met] at settled
          cases settled
          obtain ⟨log, told⟩ := Publish.uses_tellUnpublished service.events.topic event
            obstacle.failure between
          simp only [perform_bind, told] at performed
          cases performed
          rw [isConflict_eventFailure]
          exact not_isConflict_of_obstacle connecting sending met

/-- Other workers' rows reach what is committed and what the session sees. -/
theorem perform_meanwhile
    (others : StoreCall → Tables)
    (call : StoreCall)
    (service : Service)
    (committed working : Tables)
    (issued : Nat)
    (log : List LogLine) :
    (meanwhile others call).perform (service.writing ⟨committed, working, none⟩ issued log) =
      (.ok (), service.writing
        ⟨committed.absorb (others call), working.absorb (others call), none⟩ issued log) := rfl

/-- A session that has not written to the ledger knows the events that are committed. -/
theorem knownIn_of_ledger_eq
    {envelope : Envelope OrderCompleted}
    {committed working : Tables}
    (ledger : working.ledger = committed.ledger)
    (known : KnownIn envelope working) : KnownIn envelope committed := by
  obtain ⟨eventId, identified, entry, member, about⟩ := known
  exact ⟨eventId, identified, entry, ledger ▸ member, about⟩

/-- How the processing of an order ends amid the commits of others. -/
inductive ProcessedAmid
    (others : StoreCall → Tables)
    (envelope : Envelope OrderCompleted)
    (service : Service)
    (tables : Tables) : Except Failure Result → Service → Prop where
  /-- The event is in the ledger. -/
  | duplicate
      (seen : Tables)
      (log : List LogLine) :
      ProcessedAmid others envelope service tables
        (.ok { outcome := .duplicate, eventId := envelope.eventId })
        (service.writing ⟨seen, seen, none⟩ service.issued log)
  /-- There is a result, and the session can be committed. -/
  | done {result : Result} {after : Service}
      (unknown : ¬ KnownIn envelope tables)
      (quiet : tables.HasShipment envelope.payload.orderId → after.issued = service.issued)
      (opened : after.store.broken = none)
      (faultless : after.storeFaults = {}) :
      ProcessedAmid others envelope service tables (.ok result) after
  /-- There is a failure that is no conflict. -/
  | failed {failure : Failure} {after : Service}
      (unknown : ¬ KnownIn envelope tables)
      (quiet : tables.HasShipment envelope.payload.orderId → after.issued = service.issued)
      (harmless : failure.isConflict = false) :
      ProcessedAmid others envelope service tables (.error failure) after
  /-- The event was entered into the ledger by somebody else meanwhile. -/
  | entryTaken {store : Store}
      (issued : Nat)
      (log : List LogLine)
      (unknown : ¬ KnownIn envelope tables)
      (quiet : tables.HasShipment envelope.payload.orderId → issued = service.issued)
      (least : service.issued ≤ issued)
      (grown : Grown others tables store.committed)
      (known : KnownIn envelope store.committed) :
      ProcessedAmid others envelope service tables (.error (.store (.taken eventColumn)))
        (service.writing store issued log)
  /-- The order was shipped by somebody else meanwhile. -/
  | orderTaken {store : Store}
      (issued : Nat)
      (log : List LogLine)
      (unknown : ¬ KnownIn envelope tables)
      (unshipped : ¬ tables.HasShipment envelope.payload.orderId)
      (least : service.issued ≤ issued)
      (grown : Grown others tables store.committed)
      (shipped : store.committed.HasShipment envelope.payload.orderId) :
      ProcessedAmid others envelope service tables (.error (.store (.taken orderColumn)))
        (service.writing store issued log)

variable
  {others : Interference}
  {service : Service}
  {tables : Tables}
  {envelope : Envelope OrderCompleted}

/-- Entering an event and publishing what came of it conflicts with nothing but a committed entry of
the event. -/
theorem processedAmid_enter
    {number : Nat}
    {committed working : Tables}
    {issued : Nat}
    {log : List LogLine}
    {event : Envelope ShippingCreated}
    {created : Result}
    {after : Service}
    {result : Except Failure Result}
    (fair : Fair others service tables)
    (unknown : ¬ KnownIn envelope tables)
    (unshipped : ¬ tables.HasShipment envelope.payload.orderId)
    (grown : Grown (others number) tables committed)
    (ledger : working.ledger = committed.ledger)
    (least : service.issued ≤ issued)
    (performed : (do
      meanwhile (others number) .insertEntry
      markProcessed envelope
      Publish.event (.shippingCreated event)
      return created : Action Result).perform
        (service.writing ⟨committed, working, none⟩ issued log) = (result, after)) :
    ProcessedAmid (others number) envelope service tables result after := by
  have entering := grown.absorb .insertEntry
  have same : (working.absorb (others number .insertEntry)).ledger =
      (committed.absorb (others number .insertEntry)).ledger := by
    simp only [Tables.absorb, ledger]
  rw [perform_bind_of_ok _ (perform_meanwhile _ _ _ _ _ _ _)] at performed
  have marking := perform_markProcessed service (committed.absorb (others number .insertEntry))
    (working.absorb (others number .insertEntry)) issued log envelope
  cases entered : (service.task envelope).enter (working.absorb (others number .insertEntry)) with
  | error error =>
      -- The attempt has entered nothing before, so what is in the way is committed.
      obtain ⟨rfl, known⟩ := Task.enter_eq_error entered
      rw [entered] at marking
      rw [perform_bind_of_error _ marking] at performed
      cases performed
      have quiet (shipped : tables.HasShipment envelope.payload.orderId) :
          issued = service.issued := absurd shipped unshipped
      exact .entryTaken issued log unknown quiet least entering (knownIn_of_ledger_eq same known)
  | ok next =>
      rw [entered] at marking
      rw [perform_bind_of_ok _ marking] at performed
      cases publishing : (Publish.event (.shippingCreated event)).perform
          (service.writing ⟨committed.absorb (others number .insertEntry), next, none⟩ issued
            log) with
      | mk published between =>
          obtain ⟨store, storeFaults, harmless⟩ :=
            perform_event (by exact fair.connecting) (by exact fair.sending) publishing
          cases published with
          | error failure =>
              rw [perform_bind_of_error _ publishing] at performed
              cases performed
              exact .failed unknown (fun shipped => absurd shipped unshipped) (harmless _ rfl)
          | ok _ =>
              rw [perform_bind_of_ok _ publishing] at performed
              cases performed
              refine .done unknown (fun shipped => absurd shipped unshipped) ?_ ?_
              · rw [store]
                rfl
              · rw [storeFaults]
                exact fair.rests.faults

/-- Once its shipment is inserted an order conflicts with nothing but a committed entry of its
event. -/
theorem processedAmid_number
    {number : Nat}
    {committed working : Tables}
    {log : List LogLine}
    {shipment : Shipment}
    {after : Service}
    {result : Except Failure Result}
    (fair : Fair others service tables)
    (unknown : ¬ KnownIn envelope tables)
    (unshipped : ¬ tables.HasShipment envelope.payload.orderId)
    (grown : Grown (others number) tables committed)
    (ledger : working.ledger = committed.ledger)
    (performed : (do
      let sequence ← nextSequence envelope.resolvedKey
      let eventId ← newIdentifier
      let serviceName := (← get).settings.serviceName
      let (producer, word) ← checkOutbound (outboundParts serviceName sequence)
      let outbound := shippingCreated envelope shipment producer eventId word
      meanwhile (others number) .insertEntry
      markProcessed envelope
      Publish.event (.shippingCreated outbound)
      return {
        outcome := .created
        eventId := envelope.eventId
        shippingId := some shipment.shippingId
        sequence := some sequence } : Action Result).perform
        (service.writing ⟨committed, working, none⟩ (service.issued + 1) log) = (result, after)) :
    ProcessedAmid (others number) envelope service tables result after := by
  have allocating := perform_nextSequence service committed working (service.issued + 1) log
    envelope.resolvedKey
  cases taken : working.allocate envelope.resolvedKey with
  | error error =>
      obtain rfl := allocate_eq_error taken
      rw [taken] at allocating
      rw [perform_bind_of_error _ allocating] at performed
      cases performed
      exact .failed unknown (fun shipped => absurd shipped unshipped) rfl
  | ok allocated =>
      obtain ⟨sequence, counted⟩ := allocated
      obtain ⟨-, -, rfl⟩ := Tables.allocate_eq_ok_iff.mp taken
      rw [taken] at allocating
      rw [perform_bind_of_ok _ allocating, perform_bind_of_ok _ (perform_newIdentifier _ _ _ _),
        perform_bind_of_ok _ (perform_get _)] at performed
      have checking := perform_checkOutbound (outboundParts service.settings.serviceName sequence)
        (service.writing ⟨committed, working.withTaken envelope.resolvedKey sequence, none⟩
          (service.issued + 2) (log ++ [allocationLine envelope.resolvedKey sequence]))
      simp only [settings_writing] at performed
      cases parts : checked (outboundParts service.settings.serviceName sequence) with
      | error failure =>
          rw [parts] at checking
          rw [perform_bind_of_error _ checking] at performed
          cases performed
          exact .failed unknown (fun shipped => absurd shipped unshipped)
            (not_isConflict_of_checked parts)
      | ok pair =>
          rw [parts] at checking
          rw [perform_bind_of_ok _ checking] at performed
          have same : (working.withTaken envelope.resolvedKey sequence).ledger =
              committed.ledger := ledger
          exact processedAmid_enter fair unknown unshipped grown same (Nat.le_add_right _ 2)
            performed

/-- Fulfilling an order that had no shipment conflicts with nothing but a committed shipment of the
order or a committed entry of the event. -/
theorem processedAmid_fulfilAmid
    {number : Nat}
    {seen : Tables}
    {after : Service}
    {result : Except Failure Result}
    (fair : Fair others service tables)
    (unknown : ¬ KnownIn envelope tables)
    (unshipped : ¬ tables.HasShipment envelope.payload.orderId)
    (grown : Grown (others number) tables seen)
    (performed : (fulfilAmid (others number) envelope).perform
      (service.writing ⟨seen, seen, none⟩ service.issued service.log) = (result, after)) :
    ProcessedAmid (others number) envelope service tables result after := by
  have inserting := grown.absorb .insertShipment
  have counting := inserting.absorb .takeNumber
  rw [fulfilAmid, perform_bind_of_ok _ (perform_meanwhile _ _ _ _ _ _ _)] at performed
  have creating := perform_createShipment fair.rests.faults
    (seen.absorb (others number .insertShipment)) (seen.absorb (others number .insertShipment))
    service.log envelope
  cases placed : (service.task envelope).place (seen.absorb (others number .insertShipment)) with
  | error error =>
      -- Nobody uses the identifier, so it is the order that is taken.
      have next : service.issued < service.issued + 1 := Nat.lt_succ_self _
      obtain ⟨rfl, shipped⟩ := Task.place_eq_error fair.method fair.carrier
        (inserting.unused (fair.unused _ next) (fair.foreign _ next number)) placed
      rw [placed] at creating
      rw [perform_bind_of_error _ creating] at performed
      cases performed
      exact .orderTaken _ _ unknown unshipped (Nat.le_succ _) inserting shipped
  | ok shipped =>
      obtain ⟨shipment, written⟩ := shipped
      obtain ⟨-, inserted⟩ := Task.eq_of_place_eq_ok placed
      obtain ⟨-, -, rfl⟩ := Tables.insertShipment_eq_ok_iff.mp inserted
      rw [placed] at creating
      rw [perform_bind_of_ok _ creating, perform_bind_of_ok _ (perform_meanwhile _ _ _ _ _ _ _)]
        at performed
      have same : (((seen.absorb (others number .insertShipment)).withShipment shipment).absorb
          (others number .takeNumber)).ledger =
            ((seen.absorb (others number .insertShipment)).absorb
              (others number .takeNumber)).ledger := rfl
      exact processedAmid_number fair unknown unshipped counting same performed

/-- Looking for a shipment of an order that is not in the ledger, and acting upon what is found,
conflicts with nothing but a committed row of the event or of the order. -/
theorem processedAmid_findOrder
    {number : Nat}
    {seen : Tables}
    {after : Service}
    {result : Except Failure Result}
    (fair : Fair others service tables)
    (unknown : ¬ KnownIn envelope tables)
    (grown : Grown (others number) tables seen)
    (performed : (do
      meanwhile (others number) .findOrder
      match ← findShipment envelope.payload.orderId with
      | some shipment =>
          meanwhile (others number) .insertEntry
          markProcessed envelope
          return {
            outcome := .alreadyFulfilled
            eventId := envelope.eventId
            shippingId := some shipment.shippingId }
      | none => fulfilAmid (others number) envelope : Action Result).perform
        (service.writing ⟨seen, seen, none⟩ service.issued service.log) = (result, after)) :
    ProcessedAmid (others number) envelope service tables result after := by
  have looking := grown.absorb .findOrder
  have entering := looking.absorb .insertEntry
  rw [perform_bind_of_ok _ (perform_meanwhile _ _ _ _ _ _ _),
    perform_bind_of_ok _ (perform_findShipment fair.rests.faults _ _ _ _ _)] at performed
  cases found : (seen.absorb (others number .findOrder)).shipmentOfOrder?
      envelope.payload.orderId with
  | none =>
      simp only [found] at performed
      have unshipped (shipped : tables.HasShipment envelope.payload.orderId) : False :=
        Tables.shipmentOfOrder?_eq_none_iff.mp found (looking.hasShipment shipped)
      exact processedAmid_fulfilAmid fair unknown unshipped looking performed
  | some shipment =>
      simp only [found] at performed
      rw [perform_bind_of_ok _ (perform_meanwhile _ _ _ _ _ _ _)] at performed
      have marking := perform_markProcessed service
        ((seen.absorb (others number .findOrder)).absorb (others number .insertEntry))
        ((seen.absorb (others number .findOrder)).absorb (others number .insertEntry))
        service.issued service.log envelope
      cases entered : (service.task envelope).enter
          ((seen.absorb (others number .findOrder)).absorb (others number .insertEntry)) with
      | error error =>
          obtain ⟨rfl, known⟩ := Task.enter_eq_error entered
          rw [entered] at marking
          rw [perform_bind_of_error _ marking] at performed
          cases performed
          exact .entryTaken _ _ unknown (fun _ => rfl) (Nat.le_refl _) entering known
      | ok next =>
          rw [entered] at marking
          rw [perform_bind_of_ok _ marking] at performed
          cases performed
          exact .done unknown (fun _ => rfl) rfl fair.rests.faults

/-- Processing an order conflicts with nothing but a committed row of its event or of the order. -/
theorem processedAmid_processAmid
    {number : Nat}
    {after : Service}
    {result : Except Failure Result}
    (fair : Fair others service tables)
    (performed : (processAmid (others number) envelope).perform service = (result, after)) :
    ProcessedAmid (others number) envelope service tables result after := by
  have looking := (Grown.refl : Grown (others number) tables tables).absorb .findEvent
  rw [← fair.rests.writing, processAmid, perform_bind_of_ok _ (perform_meanwhile _ _ _ _ _ _ _)]
    at performed
  split at performed
  · next unidentified =>
      rw [perform_bind_of_ok _ (perform_pure _ _)] at performed
      have unknown : ¬ KnownIn envelope tables := by
        rintro ⟨eventId, identified, -⟩
        cases unidentified.symm.trans identified
      exact processedAmid_findOrder fair unknown looking performed
  · next eventId identified =>
      rw [perform_bind_of_ok _ (perform_isInLedger fair.rests.faults _ _ _ _ _)] at performed
      by_cases known : (tables.absorb (others number .findEvent)).Knows eventId
      · simp only [known, decide_true, if_true] at performed
        cases performed
        exact .duplicate _ _
      · simp only [known, decide_false, Bool.false_eq_true, if_false] at performed
        have unknown : ¬ KnownIn envelope tables := by
          rintro ⟨other, same, before⟩
          cases identified.symm.trans same
          exact known (before.absorb _)
        exact processedAmid_findOrder fair unknown looking performed

/-- A session that is open is committed with what others have committed before. -/
theorem perform_commit_meanwhile
    {others : StoreCall → Tables}
    {service : Service}
    (opened : service.store.broken = none)
    (faultless : service.storeFaults = {})
    (value : α) :
    (do
      meanwhile others .commit
      commit
      return value : Action α).perform service =
        (.ok value, { service with
          store := .ofTables (service.store.working.absorb (others .commit)) }) := by
  simp only [meanwhile, commit, perform_bind, perform_modify, perform_get, perform_set,
    perform_pure, faultless, List.head?_nil, List.tail_nil, Option.join_none, inStore,
    Store.absorb, Store.commit, opened]

/-- A unit of work ends as its processing does, and after a failure nothing is pending. -/
theorem processedAmid_unitOfWorkAmid
    {number : Nat}
    {after : Service}
    {result : Except Failure Result}
    (fair : Fair others service tables)
    (performed : (unitOfWorkAmid (others number) envelope).perform service = (result, after)) :
    ProcessedAmid (others number) envelope service tables result after
      ∧ ∀ failure, result = .error failure → after.store = .ofTables after.store.committed := by
  cases processing : (processAmid (others number) envelope).perform service with
  | mk processed between =>
      have ended := processedAmid_processAmid fair processing
      cases processed with
      | error failure =>
          simp only [unitOfWorkAmid, perform_bind, perform_attempt, processing, rollback,
            perform_modify, perform_resume] at performed
          cases performed
          refine ⟨?_, fun _ _ => rfl⟩
          cases ended with
          | failed unknown quiet harmless => exact .failed unknown quiet harmless
          | entryTaken issued log unknown quiet least grown known =>
              exact .entryTaken issued log unknown quiet least grown known
          | orderTaken issued log unknown unshipped least grown shipped =>
              exact .orderTaken issued log unknown unshipped least grown shipped
      | ok value =>
          have attempted (opened : between.store.broken = none)
              (faultless : between.storeFaults = {}) :
              (do
                let result ← processAmid (others number) envelope
                meanwhile (others number) .commit
                commit
                return result : Action Result).perform service =
              (.ok value, { between with
                store := .ofTables (between.store.working.absorb (others number .commit)) }) := by
            rw [perform_bind_of_ok _ processing]
            exact perform_commit_meanwhile opened faultless value
          cases ended with
          | duplicate seen log =>
              rw [unitOfWorkAmid, perform_bind_of_ok _ (perform_attempt _ _),
                attempted rfl fair.rests.faults] at performed
              cases performed
              exact ⟨.duplicate _ _, by simp⟩
          | done unknown quiet opened faultless =>
              rw [unitOfWorkAmid, perform_bind_of_ok _ (perform_attempt _ _),
                attempted opened faultless] at performed
              cases performed
              exact ⟨.done unknown quiet rfl faultless, by simp⟩

end Workflow
end Fulfilment
