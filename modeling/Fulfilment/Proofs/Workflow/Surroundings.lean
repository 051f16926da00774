import Fulfilment.Proofs.Publish.Sending
import Fulfilment.Workflow

/-!
# What handling leaves alone

Whatever the store and the broker do, the workflow touches neither the publisher of dead letters
nor any topic but that of the events, and it commits nothing unless it gives a result.  No service
at rest is assumed here: the session may be broken, the look-ups may miss rows, and every fault may
still be ahead.
-/

namespace Fulfilment
namespace Change

/-- A change keeps an invariant of the state, however it ends. -/
def Keeps
    (invariant : State → Prop)
    (change : Change State α) : Prop :=
  ∀ state, invariant state → invariant (change.perform state).2

variable {invariant : State → Prop}

theorem keeps_pure (value : α) : Keeps invariant (pure value) :=
  fun _ held => held

theorem keeps_fail (failure : Failure) : Keeps invariant (fail failure : Change State α) :=
  fun _ held => held

theorem keeps_get : Keeps invariant (get : Change State State) :=
  fun _ held => held

theorem Keeps.bind
    {change : Change State α}
    {next : α → Change State β}
    (first : Keeps invariant change)
    (second : ∀ value, Keeps invariant (next value)) : Keeps invariant (change >>= next) := by
  intro state held
  have between := first state held
  rw [perform_bind]
  cases performed : change.perform state with
  | mk result after =>
      rw [performed] at between
      cases result with
      | ok value => exact second value after between
      | error failure => exact between

end Change

/-- What the workflow can have done to a service: some tables are committed by now, and whatever
was sent are events. -/
structure Service.Worked
    (before : Service)
    (tables : Tables)
    (after : Service) : Prop where
  committed : after.store.committed = tables
  deadLetters : after.deadLetters = before.deadLetters
  topic : after.events.topic = before.events.topic
  sent : ∃ events, after.broker.sent = before.broker.sent ++ events
    ∧ ∀ message ∈ events, message.topic = before.events.topic

namespace Service

variable
  {before service : Service}
  {tables : Tables}

theorem Worked.refl (service : Service) : service.Worked service.store.committed service :=
  ⟨rfl, rfl, rfl, [], by simp, by simp⟩

/-- What is neither a commit nor a message changes nothing that counts. -/
theorem Worked.of_same
    {after : Service}
    (worked : before.Worked tables service)
    (committed : after.store.committed = service.store.committed)
    (deadLetters : after.deadLetters = service.deadLetters)
    (events : after.events = service.events)
    (broker : after.broker = service.broker) : before.Worked tables after where
  committed := committed.trans worked.committed
  deadLetters := deadLetters.trans worked.deadLetters
  topic := by rw [events, worked.topic]
  sent := by rw [broker]; exact worked.sent

/-- An event is sent to the topic of the events. -/
theorem Worked.of_sends
    {message : Message}
    {result : Except Failure Unit}
    {after : Service}
    (worked : before.Worked tables service)
    (about : message.topic = service.events.topic)
    (sends : Sends .events message service result after) : before.Worked tables after := by
  obtain ⟨uses, sent, sending, added⟩ := sends
  obtain ⟨events, earlier, topics⟩ := worked.sent
  have topic := worked.topic
  refine ⟨?_, ?_, (uses.topic .events).trans topic, events ++ sent, ?_, ?_⟩
  · rw [uses, ← worked.committed]
    rfl
  · rw [uses, ← worked.deadLetters]
    rfl
  · rw [added, earlier, List.append_assoc]
  · intro other member
    rcases List.mem_append.mp member with member | member
    · exact topics other member
    · have same : other.topic = message.topic := by
        cases sending <;> simp_all
      rw [same, about, topic]

end Service

namespace Workflow

open Fulfilment.Action Fulfilment.Change Fulfilment.Service

variable
  {before : Service}
  {tables : Tables}

theorem keeps_tell
    (source : LogSource)
    (level : LogLevel)
    (text : String) : Keeps (before.Worked tables) (tell source level text) :=
  fun _ worked => worked.of_same rfl rfl rfl rfl

/-- A store that keeps what is committed changes nothing that counts. -/
theorem keeps_inStore
    {operation : Store → Except StoreError α × Store}
    (keeps : ∀ store, (operation store).2.committed = store.committed) :
    Keeps (before.Worked tables) (inStore operation) := by
  intro service worked
  have kept : before.Worked tables { service with store := (operation service.store).2 } :=
    worked.of_same (keeps service.store) rfl rfl rfl
  simp only [inStore, perform_bind, perform_get, perform_set]
  cases (operation service.store).1 with
  | ok value => exact kept
  | error error => exact kept

theorem keeps_isInLedger (eventId : Uuid) :
    Keeps (before.Worked tables) (isInLedger eventId) := by
  intro service worked
  simp only [isInLedger, perform_bind, perform_get]
  cases service.storeFaults.missedEntries with
  | zero => exact keeps_inStore (fun _ => rfl) service worked
  | succ missed => exact worked.of_same rfl rfl rfl rfl

theorem keeps_findShipment (orderId : Uuid) :
    Keeps (before.Worked tables) (findShipment orderId) := by
  intro service worked
  simp only [findShipment, perform_bind, perform_get]
  cases service.storeFaults.missedOrders with
  | zero => exact keeps_inStore (fun _ => rfl) service worked
  | succ missed => exact worked.of_same rfl rfl rfl rfl

theorem keeps_newIdentifier : Keeps (before.Worked tables) newIdentifier :=
  fun _ worked => worked.of_same rfl rfl rfl rfl

theorem keeps_createShipment (order : OrderCompleted) :
    Keeps (before.Worked tables) (createShipment order) := by
  unfold createShipment
  refine keeps_get.bind fun service => ?_
  cases service.storeFaults.creation with
  | some failure => exact keeps_fail failure
  | none =>
      exact keeps_newIdentifier.bind fun shippingId =>
        keeps_inStore fun store => Store.committed_update store _

theorem keeps_nextSequence (key : String) :
    Keeps (before.Worked tables) (nextSequence key) :=
  (keeps_inStore fun store => Store.committed_update store _).bind fun _ =>
    (keeps_tell _ _ _).bind fun _ => keeps_pure _

theorem keeps_checkOutbound (parts : Schema.Reading α) :
    Keeps (before.Worked tables) (checkOutbound parts) := by
  cases parts with
  | ok value => exact keeps_pure value
  | invalid issues => exact keeps_fail _
  | outOfCalendar => exact keeps_fail _

theorem keeps_markProcessed (envelope : Envelope OrderCompleted) :
    Keeps (before.Worked tables) (markProcessed envelope) := by
  unfold markProcessed
  cases envelope.eventId with
  | none => exact keeps_pure _
  | some eventId =>
      exact keeps_get.bind fun _ =>
        (keeps_inStore fun store => Store.committed_update store _).bind fun _ => keeps_pure _

/-- Publishing an event sends to the topic of the events. -/
theorem keeps_event (event : Event) :
    Keeps (before.Worked tables) (Publish.event event) := by
  intro service worked
  have published {payload : Type} (envelope : Envelope payload) (written : Bytes) :=
    Publish.sends_envelope (rfl : (Publish.envelope envelope written).perform service = _)
  cases event with
  | orderCompleted completed => exact worked.of_sends rfl (published completed _)
  | shippingCreated created => exact worked.of_sends rfl (published created _)

theorem keeps_fulfil (envelope : Envelope OrderCompleted) :
    Keeps (before.Worked tables) (fulfil envelope) :=
  (keeps_createShipment _).bind fun _ =>
    (keeps_nextSequence _).bind fun _ =>
      keeps_newIdentifier.bind fun _ =>
        keeps_get.bind fun _ =>
          (keeps_checkOutbound _).bind fun _ =>
            (keeps_markProcessed _).bind fun _ =>
              (keeps_event _).bind fun _ => keeps_pure _

/-- Processing an order commits nothing. -/
theorem keeps_process (envelope : Envelope OrderCompleted) :
    Keeps (before.Worked tables) (process envelope) := by
  unfold process
  -- An event without an identifier is not looked up; what follows is the same.
  split
  all_goals
    refine Keeps.bind ?_ fun known => ?_
    · first | exact keeps_pure false | exact keeps_isInLedger _
    · cases known with
      | true => exact keeps_pure _
      | false =>
          refine (keeps_findShipment _).bind fun found => ?_
          cases found with
          | none => exact keeps_fulfil envelope
          | some shipment => exact (keeps_markProcessed envelope).bind fun _ => keeps_pure _

/-- A commit that fails commits nothing, and any other some tables. -/
theorem worked_commit
    {service after : Service}
    {result : Except Failure Unit}
    (worked : before.Worked tables service)
    (performed : commit.perform service = (result, after)) :
    ∃ next, before.Worked next after ∧ ∀ failure, result = .error failure → next = tables := by
  simp only [commit, perform_bind, perform_get, perform_set] at performed
  cases fault : service.storeFaults.commits.head?.join with
  | some failure =>
      simp only [fault] at performed
      cases performed
      exact ⟨tables, worked.of_same rfl rfl rfl rfl, fun _ _ => rfl⟩
  | none =>
      simp only [fault, inStore, perform_bind, perform_get, perform_set, Store.commit] at performed
      cases broken : service.store.broken with
      | some cause =>
          simp only [broken] at performed
          cases performed
          exact ⟨tables, worked.of_same rfl rfl rfl rfl, fun _ _ => rfl⟩
      | none =>
          simp only [broken] at performed
          cases performed
          exact ⟨service.store.working,
            ⟨rfl, worked.deadLetters, worked.topic, worked.sent⟩, by simp⟩

/-- A unit of work that fails commits nothing, and any other some tables. -/
theorem worked_unitOfWork
    {service after : Service}
    {envelope : Envelope OrderCompleted}
    {result : Except Failure Result}
    (worked : before.Worked tables service)
    (performed : (unitOfWork envelope).perform service = (result, after)) :
    ∃ next, before.Worked next after ∧ ∀ failure, result = .error failure → next = tables := by
  have processing := keeps_process envelope service worked
  cases processed : (process envelope).perform service with
  | mk outcome between =>
      rw [processed] at processing
      cases outcome with
      | error failure =>
          simp only [unitOfWork, perform_bind, perform_attempt, processed, rollback,
            perform_modify, perform_resume] at performed
          cases performed
          exact ⟨tables, processing.of_same rfl rfl rfl rfl, fun _ _ => rfl⟩
      | ok value =>
          cases committing : commit.perform between with
          | mk committed last =>
              obtain ⟨next, finished, kept⟩ := worked_commit processing committing
              simp only [unitOfWork, perform_bind, perform_attempt, processed, committing,
                rollback, perform_modify] at performed
              cases committed with
              | error failure =>
                  simp only [perform_resume] at performed
                  cases performed
                  exact ⟨next, finished.of_same rfl rfl rfl rfl, fun _ _ => kept failure rfl⟩
              | ok _ =>
                  simp only [perform_pure, perform_resume] at performed
                  cases performed
                  exact ⟨next, finished.of_same rfl rfl rfl rfl, by simp⟩

/-- Attempts that fail commit nothing, and any others some tables. -/
theorem worked_attempts
    {service after : Service}
    {envelope : Envelope OrderCompleted}
    {retries number : Nat}
    {result : Except Failure Result}
    (worked : before.Worked tables service)
    (performed : (attempts envelope retries number).perform service = (result, after)) :
    ∃ next, before.Worked next after ∧ ∀ failure, result = .error failure → next = tables := by
  induction retries generalizing service number with
  | zero => exact worked_unitOfWork worked performed
  | succ retries ih =>
      cases working : (unitOfWork envelope).perform service with
      | mk first between =>
          obtain ⟨next, finished, kept⟩ := worked_unitOfWork worked working
          simp only [attempts, perform_bind, perform_attempt, working] at performed
          cases first with
          | ok value =>
              cases performed
              exact ⟨next, finished, kept⟩
          | error failure =>
              by_cases conflict : failure.isConflict
              -- An attempt that met a conflict left the tables, so the next one begins with them.
              · simp only [conflict, if_true, perform_bind] at performed
                rw [kept failure rfl] at finished
                exact ih (keeps_tell _ _ _ between finished) performed
              · simp only [conflict, Bool.false_eq_true, if_false, perform_fail] at performed
                cases performed
                exact ⟨next, finished, kept⟩

/-- Handling a body that fails commits nothing, and any other some tables. -/
theorem worked_handle
    {service after : Service}
    {retries : Int}
    {body : Option Bytes}
    {result : Except Failure Result}
    (performed : (handle retries body).perform service = (result, after)) :
    ∃ next, service.Worked next after
      ∧ ∀ failure, result = .error failure → next = service.store.committed := by
  have fresh := Worked.refl service
  unfold handle at performed
  cases decoded : Event.decodeOrderCompleted body with
  | ok envelope =>
      simp only [decoded] at performed
      exact worked_attempts fresh performed
  | error error =>
      simp only [decoded] at performed
      cases error with
      | shapeMismatch name version =>
          simp only [perform_bind, perform_pure] at performed
          cases performed
          exact ⟨_, keeps_tell _ _ _ service fresh, by simp⟩
      | malformed issues =>
          cases performed
          exact ⟨_, fresh, fun _ _ => rfl⟩
      | invalid name version issues =>
          cases performed
          exact ⟨_, fresh, fun _ _ => rfl⟩
      | outOfCalendar =>
          cases performed
          exact ⟨_, fresh, fun _ _ => rfl⟩

end Workflow
end Fulfilment
