import Fulfilment.Proofs.Workflow.Creation
import Fulfilment.Proofs.Workflow.Process

/-!
# Attempts

An attempt commits all of its plan after the broker has acknowledged the event, or commits
nothing.  A conflict is followed by another attempt while retries are left.  All attempts before
the last one have failed, so they leave the tables and no acknowledged message.
-/

namespace Fulfilment
namespace Workflow

open Fulfilment.Action Fulfilment.Change Fulfilment.Service

/-- How an attempt ends: its result, the tables that are committed then, and the messages that it
has sent. -/
inductive Attempted
    (task : Task)
    (tables : Tables) : Except Failure Result → Tables → List Message → Prop where
  /-- There is no plan. -/
  | refused {failure : Failure}
      (planned : task.plan tables = .error failure) :
      Attempted task tables (.error failure) tables []
  /-- The event was already acted upon. -/
  | duplicate
      (planned : task.plan tables = .ok .duplicate) :
      Attempted task tables (.ok (Plan.duplicate.result task.envelope.eventId)) tables []
  /-- The order has a shipment. -/
  | fulfilled {shipment : Shipment} {next : Tables}
      (planned : task.plan tables = .ok (.fulfilled shipment next)) :
      Attempted task tables
        (.ok ((Plan.fulfilled shipment next).result task.envelope.eventId)) next []
  /-- The event was not published. -/
  | unpublished {shipment : Shipment} {sequence : Int} {event : Envelope ShippingCreated}
      {next : Tables} {failure : Failure} {sent : List Message}
      (planned : task.plan tables = .ok (.created shipment sequence event next))
      (sending : Sending (task.message event) (.error failure) sent) :
      Attempted task tables (.error failure) tables sent
  /-- The shipment was created and announced. -/
  | created {shipment : Shipment} {sequence : Int} {event : Envelope ShippingCreated}
      {next : Tables}
      (planned : task.plan tables = .ok (.created shipment sequence event next)) :
      Attempted task tables
        (.ok ((Plan.created shipment sequence event next).result task.envelope.eventId))
        next [{ task.message event with acknowledged := true }]

/-- How attempts end, of which only the last may succeed. -/
inductive Attempts
    (task : Task)
    (tables : Tables) : Except Failure Result → Tables → List Message → Prop where
  /-- The last attempt. -/
  | last {result : Except Failure Result} {next : Tables} {sent : List Message}
      (shippingId eventId : Uuid)
      (attempted : Attempted { task with shippingId, eventId } tables result next sent) :
      Attempts task tables result next sent
  /-- An attempt after which another one is made. -/
  | again {result : Except Failure Result} {next : Tables} {sent later : List Message}
      {failure : Failure}
      (shippingId eventId : Uuid)
      (attempted : Attempted { task with shippingId, eventId } tables (.error failure) tables sent)
      (attempts : Attempts task tables result next later) :
      Attempts task tables result next (sent ++ later)

/-- What attempts at an event come to, which the tables settle up to the choice between a shipment
and a failure. -/
inductive Settled
    (task : Task)
    (tables : Tables) : Except Failure Result → Tables → List Message → Prop where
  /-- The event was already acted upon. -/
  | duplicate
      (known : task.IsKnown tables) :
      Settled task tables (.ok { outcome := .duplicate, eventId := task.envelope.eventId })
        tables []
  /-- The order has a shipment. -/
  | fulfilled {shipment : Shipment}
      (unknown : ¬ task.IsKnown tables)
      (found : tables.shipmentOfOrder? task.envelope.payload.orderId = some shipment) :
      Settled task tables
        (.ok {
          outcome := .alreadyFulfilled
          eventId := task.envelope.eventId
          shippingId := some shipment.shippingId })
        (tables.withEntry task.ledgerRow?) []
  /-- No shipment was created and announced.  Something was sent only if the key had a number. -/
  | failed {sent : List Message}
      (failure : Failure)
      (unknown : ¬ task.IsKnown tables)
      (unshipped : ¬ tables.HasShipment task.envelope.payload.orderId)
      (unacknowledged : ∀ message ∈ sent, message.acknowledged = false)
      (possible : sent ≠ [] →
        0 ≤ tables.due task.envelope.resolvedKey
          ∧ tables.due task.envelope.resolvedKey < Tables.greatestCounter) :
      Settled task tables (.error failure) tables sent
  /-- A shipment was created and announced, perhaps after failures. -/
  | created {shippingId eventId : Uuid} {shipment : Shipment} {sequence : Int}
      {event : Envelope ShippingCreated} {next : Tables}
      (earlier : List Message)
      (unknown : ¬ task.IsKnown tables)
      (creates : Task.Creates { task with shippingId, eventId } tables shipment sequence event next)
      (unacknowledged : ∀ message ∈ earlier, message.acknowledged = false) :
      Settled task tables
        (.ok {
          outcome := .created
          eventId := task.envelope.eventId
          shippingId := some shipment.shippingId
          sequence := some sequence })
        next (earlier ++ [{ task.message event with acknowledged := true }])

end Workflow

/-- The service at rest after something was committed and sent, otherwise as it was. -/
structure Service.Continues
    (before : Service)
    (tables : Tables)
    (sent : List Message)
    (after : Service) : Prop where
  rests : after.Rests tables
  settings : after.settings = before.settings
  clock : after.clock = before.clock
  identifier : after.identifier = before.identifier
  topic : after.events.topic = before.events.topic
  routingKey : after.routingKey = before.routingKey
  sent : after.broker.sent = before.broker.sent ++ sent

namespace Service

/-- What continues after something was sent continues after more was sent. -/
theorem Continues.trans
    {before between after : Service}
    {tables next : Tables}
    {sent later : List Message}
    (first : before.Continues tables sent between)
    (second : between.Continues next later after) :
    before.Continues next (sent ++ later) after where
  rests := second.rests
  settings := second.settings.trans first.settings
  clock := second.clock.trans first.clock
  identifier := second.identifier.trans first.identifier
  topic := second.topic.trans first.topic
  routingKey := second.routingKey.trans first.routingKey
  sent := by rw [second.sent, first.sent, List.append_assoc]

/-- A line in the log does not keep the service from continuing. -/
theorem Continues.log
    {before after : Service}
    {tables : Tables}
    {sent : List Message}
    (continues : before.Continues tables sent after)
    (log : List LogLine) : before.Continues tables sent { after with log } where
  rests := ⟨continues.rests.store, continues.rests.faults⟩
  settings := continues.settings
  clock := continues.clock
  identifier := continues.identifier
  topic := continues.topic
  routingKey := continues.routingKey
  sent := continues.sent

/-- A later task about an event differs in its identifiers only. -/
theorem Continues.task
    {before after : Service}
    {tables : Tables}
    {sent : List Message}
    (continues : before.Continues tables sent after)
    (envelope : Envelope OrderCompleted) :
    after.task envelope =
      { before.task envelope with
        shippingId := (after.task envelope).shippingId
        eventId := (after.task envelope).eventId } := by
  simp [Service.task, continues.settings, continues.clock, continues.topic, continues.routingKey]

end Service

namespace Workflow

open Fulfilment.Action Fulfilment.Change Fulfilment.Service

/-- An attempt that fails leaves the tables. -/
theorem Attempted.kept
    {task : Task}
    {tables next : Tables}
    {failure : Failure}
    {sent : List Message}
    (attempted : Attempted task tables (.error failure) next sent) : next = tables := by
  cases attempted <;> rfl

/-- An attempt that fails leaves no acknowledged message. -/
theorem Attempted.unacknowledged
    {task : Task}
    {tables next : Tables}
    {failure : Failure}
    {sent : List Message}
    (attempted : Attempted task tables (.error failure) next sent) :
    ∀ message ∈ sent, message.acknowledged = false := by
  cases attempted with
  | refused _ => simp
  | unpublished _ sending => exact sending.unacknowledged

/-- An attempt sends at most one message. -/
theorem Attempted.length_le_one
    {task : Task}
    {tables next : Tables}
    {ending : Except Failure Result}
    {sent : List Message}
    (attempted : Attempted task tables ending next sent) : sent.length ≤ 1 := by
  cases attempted with
  | unpublished planned sending => cases sending <;> simp
  | _ => simp

/-- What an attempt sends is an event with the number that is due. -/
theorem Attempted.numbered
    {task : Task}
    {tables next : Tables}
    {ending : Except Failure Result}
    {sent : List Message}
    {message : Message}
    (attempted : Attempted task tables ending next sent)
    (member : message ∈ sent) :
    ∃ event, Event.decodeShippingCreated? message.value = some event
      ∧ event.partitionKey = task.envelope.resolvedKey
      ∧ event.number? = some (tables.due task.envelope.resolvedKey) := by
  have told {shipment : Shipment} {sequence : Int} {event : Envelope ShippingCreated}
      {next : Tables} (planned : task.plan tables = .ok (.created shipment sequence event next)) :
      ∃ told, Event.decodeShippingCreated? (task.message event).value = some told
        ∧ told.partitionKey = task.envelope.resolvedKey
        ∧ told.number? = some (tables.due task.envelope.resolvedKey) := by
    obtain ⟨-, creates⟩ := Task.justified_of_plan planned
    have tells := Task.tells_of_outbound creates.sound
    refine ⟨event, ?_, tells.partitionKey, creates.due ▸ tells.number⟩
    simpa [Message.announcement?] using tells.announced
  cases attempted with
  | created planned =>
      obtain rfl := List.mem_singleton.mp member
      exact told planned
  | unpublished planned sending =>
      cases sending with
      | lost failure =>
          obtain rfl := List.mem_singleton.mp member
          exact told planned
      | unsent failure => cases member
  | refused planned => cases member
  | duplicate planned => cases member
  | fulfilled planned => cases member

/-- A result tells the number that is due, or none. -/
theorem Attempted.sequence_eq
    {task : Task}
    {tables next : Tables}
    {result : Result}
    {sent : List Message}
    {number : Int}
    (attempted : Attempted task tables (.ok result) next sent)
    (told : result.sequence = some number) : number = tables.due task.envelope.resolvedKey := by
  cases attempted with
  | duplicate planned => cases told
  | fulfilled planned => cases told
  | created planned =>
      obtain ⟨-, creates⟩ := Task.justified_of_plan planned
      cases told
      exact creates.due

/-- A processing that fails is undone. -/
theorem perform_unitOfWork_of_error
    {service between : Service}
    {envelope : Envelope OrderCompleted}
    {failure : Failure}
    (processed : (process envelope).perform service = (.error failure, between)) :
    (unitOfWork envelope).perform service =
      (.error failure, { between with store := between.store.rollback }) := by
  simp only [unitOfWork, perform_bind, perform_attempt, processed, rollback, perform_modify,
    perform_resume]

/-- A processing that gives a result is committed, and the log tells it. -/
theorem perform_unitOfWork_of_ok
    {service between : Service}
    {envelope : Envelope OrderCompleted}
    {result : Result}
    {tables next : Tables}
    (processed : (process envelope).perform service = (.ok result, between))
    (store : between.store = ⟨tables, next, none⟩)
    (faultless : between.storeFaults = {}) :
    ∃ log, (unitOfWork envelope).perform service =
      (.ok result, { between with store := .ofTables next, log }) := by
  have committing : commit.perform between =
      (.ok (), { between with store := .ofTables next }) := by
    simp [commit, perform_bind, faultless, store, inStore, Store.commit]
  simp only [unitOfWork, perform_bind, perform_attempt, processed, committing, perform_pure,
    rollback, perform_modify, perform_resume]
  exact ⟨_, rfl⟩

/-- Publishing an event leaves the session, and once that is ended the service is as it was but
for what was sent. -/
theorem continues_event
    {service between : Service}
    {store : Store}
    {issued : Nat}
    {log : List LogLine}
    {event : Envelope ShippingCreated}
    {published : Except Failure Unit}
    (faultless : service.storeFaults = {})
    (publishing :
      (Publish.event (.shippingCreated event)).perform (service.writing store issued log) =
        (published, between)) :
    between.store = store
      ∧ between.storeFaults = {}
      ∧ ∃ sent,
        Sending (Publish.message service.events.topic service.routingKey event
          (Event.shippingCreated event).encode) published sent
        ∧ ∀ tables told,
          service.Continues tables sent
            { between with store := .ofTables tables, log := told } := by
  obtain ⟨uses, sent, sending, added⟩ := Publish.sends_envelope publishing
  have kept : between.store = store := by
    rw [uses]
    rfl
  have calm : between.storeFaults = {} := by
    rw [← faultless, uses]
    rfl
  refine ⟨kept, calm, sent, sending, fun tables told => ⟨⟨rfl, calm⟩, ?_, ?_, ?_, ?_, ?_, added⟩⟩
  all_goals
    simp only
    rw [uses]
    rfl

/-- A unit of work is an attempt. -/
theorem attempted_unitOfWork
    {service after : Service}
    {tables : Tables}
    {envelope : Envelope OrderCompleted}
    {result : Except Failure Result}
    (rests : service.Rests tables)
    (performed : (unitOfWork envelope).perform service = (result, after)) :
    ∃ next sent, Attempted (service.task envelope) tables result next sent
      ∧ service.Continues next sent after := by
  cases processing : (process envelope).perform service with
  | mk processed between =>
      cases processed_process rests processing with
      | refused issued log planned kept =>
          rw [perform_unitOfWork_of_error processing] at performed
          cases performed
          refine ⟨tables, [], .refused planned, ⟨?_, rests.faults⟩, rfl, rfl, rfl, rfl, rfl, ?_⟩
          · rw [Service.writing, Store.rollback, kept]
          · simp [Service.writing]
      | duplicate planned =>
          obtain ⟨log, committed⟩ := perform_unitOfWork_of_ok processing rests.store rests.faults
          rw [committed] at performed
          cases performed
          exact ⟨tables, [], .duplicate planned, ⟨rfl, rests.faults⟩, rfl, rfl, rfl, rfl, rfl,
            by simp⟩
      | fulfilled planned =>
          obtain ⟨log, committed⟩ := perform_unitOfWork_of_ok processing rfl rests.faults
          rw [committed] at performed
          cases performed
          exact ⟨_, [], .fulfilled planned, ⟨rfl, rests.faults⟩, rfl, rfl, rfl, rfl, rfl,
            by simp [Service.writing]⟩
      | published planned publishing =>
          obtain ⟨store, faultless, sent, sending, continues⟩ :=
            continues_event rests.faults publishing
          cases sending with
          | acknowledged =>
              obtain ⟨log, committed⟩ := perform_unitOfWork_of_ok processing store faultless
              rw [committed] at performed
              cases performed
              exact ⟨_, _, .created planned, continues _ log⟩
          | lost failure =>
              rw [perform_unitOfWork_of_error processing, store] at performed
              cases performed
              exact ⟨_, _, .unpublished planned (.lost failure), continues tables _⟩
          | unsent failure =>
              rw [perform_unitOfWork_of_error processing, store] at performed
              cases performed
              exact ⟨_, _, .unpublished planned (.unsent failure), continues tables _⟩

/-- Attempts choose their identifiers themselves. -/
theorem Attempts.renew
    {task : Task}
    {tables next : Tables}
    {result : Except Failure Result}
    {sent : List Message}
    {shippingId eventId : Uuid}
    (attempts : Attempts { task with shippingId, eventId } tables result next sent) :
    Attempts task tables result next sent := by
  induction attempts with
  | last shippingId eventId attempted => exact .last shippingId eventId attempted
  | again shippingId eventId attempted _ ih => exact .again shippingId eventId attempted ih

/-- Telling of a conflict leaves a line in the log. -/
theorem perform_tellConflict
    (envelope : Envelope OrderCompleted)
    (number : Nat)
    (service : Service) :
    ∃ log, (tellConflict envelope number).perform service = (.ok (), { service with log }) :=
  ⟨_, rfl⟩

/-- Carrying out the unit of work, and again after conflicts, is a series of attempts. -/
theorem attempts_attempts
    {service after : Service}
    {tables : Tables}
    {envelope : Envelope OrderCompleted}
    {retries number : Nat}
    {result : Except Failure Result}
    (rests : service.Rests tables)
    (performed : (attempts envelope retries number).perform service = (result, after)) :
    ∃ next sent, Attempts (service.task envelope) tables result next sent
      ∧ service.Continues next sent after := by
  induction retries generalizing service number with
  | zero =>
      obtain ⟨next, sent, attempted, continues⟩ := attempted_unitOfWork rests performed
      exact ⟨next, sent, .last _ _ attempted, continues⟩
  | succ retries ih =>
      cases working : (unitOfWork envelope).perform service with
      | mk first between =>
          obtain ⟨next, sent, attempted, continues⟩ := attempted_unitOfWork rests working
          simp only [attempts, perform_bind, perform_attempt, working] at performed
          cases first with
          | ok value =>
              cases performed
              exact ⟨next, sent, .last _ _ attempted, continues⟩
          | error failure =>
              by_cases conflict : failure.isConflict
              · obtain ⟨log, told⟩ := perform_tellConflict envelope number between
                simp only [conflict, if_true, perform_bind, told] at performed
                obtain rfl := attempted.kept
                have resumed := continues.log log
                obtain ⟨last, later, attempts, ended⟩ := ih resumed.rests performed
                rw [resumed.task envelope] at attempts
                exact ⟨last, sent ++ later, .again _ _ attempted attempts.renew,
                  resumed.trans ended⟩
              · simp only [conflict, Bool.false_eq_true, if_false, perform_fail] at performed
                cases performed
                exact ⟨next, sent, .last _ _ attempted, continues⟩

/-- Messages are unacknowledged if all of their parts are. -/
theorem unacknowledged_append
    {sent later : List Message}
    (first : ∀ message ∈ sent, message.acknowledged = false)
    (second : ∀ message ∈ later, message.acknowledged = false) :
    ∀ message ∈ sent ++ later, message.acknowledged = false := by
  intro message member
  rcases List.mem_append.mp member with member | member
  · exact first message member
  · exact second message member

/-- A single attempt settles an event. -/
theorem Attempted.settled
    {task : Task}
    {tables next : Tables}
    {result : Except Failure Result}
    {sent : List Message}
    {shippingId eventId : Uuid}
    (attempted : Attempted { task with shippingId, eventId } tables result next sent) :
    Settled task tables result next sent := by
  cases attempted with
  | refused planned =>
      obtain ⟨unknown, unshipped⟩ := Task.new_of_plan_eq_error planned
      exact .failed _ unknown unshipped (by simp) (by simp)
  | duplicate planned => exact .duplicate (Task.justified_of_plan planned)
  | fulfilled planned =>
      obtain ⟨unknown, found, rfl⟩ := Task.justified_of_plan planned
      exact .fulfilled unknown found
  | unpublished planned sending =>
      obtain ⟨unknown, creates⟩ := Task.justified_of_plan planned
      exact .failed _ unknown creates.unshipped sending.unacknowledged fun _ => creates.possible
  | created planned =>
      obtain ⟨unknown, creates⟩ := Task.justified_of_plan planned
      exact .created [] unknown creates (by simp)

/-- Attempts settle an event. -/
theorem Attempts.settled
    {task : Task}
    {tables next : Tables}
    {result : Except Failure Result}
    {sent : List Message}
    (attempts : Attempts task tables result next sent) :
    Settled task tables result next sent := by
  induction attempts with
  | last _ _ attempted => exact attempted.settled
  | again _ _ attempted _ ih =>
      cases attempted with
      | refused _ => exact ih
      | unpublished planned sending =>
          obtain ⟨unknown, creates⟩ := Task.justified_of_plan planned
          have unacknowledged := sending.unacknowledged
          cases ih with
          | duplicate known => exact absurd known unknown
          | fulfilled _ found =>
              have shipped := Tables.hasShipment_of_shipmentOfOrder? found
              exact absurd ⟨_, shipped⟩ creates.unshipped
          | failed failure _ unshipped later _ =>
              exact .failed failure unknown unshipped (unacknowledged_append unacknowledged later)
                fun _ => creates.possible
          | created earlier _ created later =>
              rw [← List.append_assoc]
              exact .created _ unknown created (unacknowledged_append unacknowledged later)

end Workflow
end Fulfilment
