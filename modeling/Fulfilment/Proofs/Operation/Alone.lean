import Fulfilment.Proofs.Concurrency.Rank
import Fulfilment.Proofs.Dispatch.Disposition
import Fulfilment.Proofs.Operation.State

/-!
# A worker that nobody disturbs

While no attempt holds anything, a worker can dispatch the record at hand from beginning to end.
Its steps then do what dispatching does to a service at rest: the record ends with the same result,
the same tables are committed and the same messages are sent.
-/

namespace Fulfilment
namespace Operation

open Fulfilment.Change
open Fulfilment.Workflow (unitOfWork attempts handle)

variable
  {Run : Type}
  {topic : String}
  {retries : Run → Int}
  {first state next last : State Run}
  {run : Run}
  {ticket : Nat}
  {item : Pool.Item Record}
  {dispatching ended : Dispatching}
  {letters : List Message}
  {service between after : Service}
  {envelope : Envelope OrderCompleted}

/-- A state in which no attempt holds anything, and a service at rest with the same tables and the
same messages. -/
structure Mirrors
    (topic : String)
    (state : State Run)
    (service : Service) : Prop where
  rests : service.Rests state.database.committed
  idle : ∀ attempt, state.database.writes Attempt.task attempt = {}
  sent : state.messages.Perm service.broker.sent
  topic : service.deadLetters.topic = topic

/-- Lines in the log make no difference. -/
theorem Mirrors.log
    (mirrors : Mirrors topic state service)
    (log : List LogLine) : Mirrors topic state { service with log } :=
  ⟨⟨mirrors.rests.store, mirrors.rests.faults⟩, mirrors.idle, mirrors.sent, mirrors.topic⟩

variable [DecidableEq Run]

/-- What is reached from a state that is reached is reached. -/
theorem Reaches.trans
    (before : Reaches topic retries first state)
    (after : Reaches topic retries state last) : Reaches topic retries first last := by
  induction after with
  | refl => exact before
  | step _ step ih => exact .step ih step

/-- The steps of attempts are steps of the operation, if workers are at all attempts that have
moved. -/
theorem reaches_attempts
    {database : Concurrency.World (Attempt Run)}
    (reaches : Concurrency.Reaches Attempt.task state.database database)
    (current : ∀ attempt, database.phase attempt ≠ state.database.phase attempt →
      state.dispatching attempt.run attempt.ticket = .attempting attempt.left attempt.task) :
    Reaches topic retries state { state with database } := by
  induction reaches with
  | refl => exact .refl
  | step before step ih =>
      -- An attempt never comes back to where it was, so whichever moved has moved at the end.
      have earlier := ih fun attempt moved => current attempt (before.moved step (.inl moved))
      refine earlier.step (.attempt step fun attempt moved => ?_)
      exact current attempt (before.moved step (.inr moved))

/-- The record of a ticket, and nothing else, is dispatched further, until a state that mirrors a
service. -/
structure Leads
    (topic : String)
    (retries : Run → Int)
    (state : State Run)
    (run : Run)
    (ticket : Nat)
    (dispatching : Dispatching)
    (service : Service)
    (next : State Run) : Prop where
  reaches : Reaches topic retries state next
  mirrors : Mirrors topic next service
  consumer : next.consumer = state.consumer
  dispatching : next.dispatching run ticket = dispatching
  elsewhere : ∀ other otherTicket, ¬ (other = run ∧ otherTicket = ticket) →
    next.dispatching other otherTicket = state.dispatching other otherTicket
  untouched : ∀ attempt : Attempt Run, ¬ (attempt.run = run ∧ attempt.ticket = ticket) →
    next.database.phase attempt = state.database.phase attempt

namespace Leads

theorem trans
    (before : Leads topic retries state run ticket dispatching between next)
    (further : Leads topic retries next run ticket ended after last) :
    Leads topic retries state run ticket ended after last where
  reaches := before.reaches.trans further.reaches
  mirrors := further.mirrors
  consumer := further.consumer.trans before.consumer
  dispatching := further.dispatching
  elsewhere other otherTicket differs :=
    (further.elsewhere other otherTicket differs).trans
      (before.elsewhere other otherTicket differs)
  untouched attempt differs :=
    (further.untouched attempt differs).trans (before.untouched attempt differs)

/-- The worker has the same items at hand. -/
theorem isAtHand
    (leads : Leads topic retries state run ticket dispatching service next)
    (atHand : state.IsAtHand run item) : next.IsAtHand run item := by
  rwa [State.IsAtHand, leads.consumer]

end Leads

/-- A step of the worker that sends some letters. -/
theorem leads_advance
    (mirrors : Mirrors topic state service)
    (atHand : state.IsAtHand run item)
    (goesOn : Dispatching.Next topic (retries run).toNat item.job
      (state.attempts run item.ticket) (state.dispatching run item.ticket) letters dispatching)
    (rests : after.Rests state.database.committed)
    (sent : after.broker.sent = service.broker.sent ++ letters)
    (same : after.deadLetters.topic = service.deadLetters.topic) :
    Leads topic retries state run item.ticket dispatching after
      (state.advance run item.ticket dispatching letters) where
  reaches := .step .refl (.dispatch run atHand goesOn)
  mirrors := {
    rests
    idle := mirrors.idle
    sent := by
      rw [sent, State.messages, State.advance, ← List.append_assoc]
      exact mirrors.sent.append_right letters
    topic := same.trans mirrors.topic }
  consumer := rfl
  dispatching := by
    rw [State.dispatching_advance_same, Function.update_self]
  elsewhere other otherTicket differs := by
    by_cases same : other = run
    · subst same
      rw [State.dispatching_advance_same, Function.update_of_ne fun also => differs ⟨rfl, also⟩]
    · rw [State.dispatching_advance_other same]
  untouched _ _ := rfl

/-- Lines in the log make no difference. -/
theorem Leads.log
    (leads : Leads topic retries state run ticket dispatching service next)
    (log : List LogLine) :
    Leads topic retries state run ticket dispatching { service with log } next :=
  { leads with mirrors := leads.mirrors.log log }

/-- A step of the worker that sends nothing and leaves a line in the log. -/
theorem leads_log
    (mirrors : Mirrors topic state service)
    (atHand : state.IsAtHand run item)
    (goesOn : Dispatching.Next topic (retries run).toNat item.job
      (state.attempts run item.ticket) (state.dispatching run item.ticket) [] dispatching)
    (log : List LogLine) :
    Leads topic retries state run item.ticket dispatching { service with log }
      (state.advance run item.ticket dispatching []) :=
  (leads_advance mirrors atHand goesOn mirrors.rests (List.append_nil _).symm rfl).log log

/-- The state after an attempt has ended, with the messages that it has sent and the tables that are
then committed. -/
def State.attempted
    (state : State Run)
    (attempt : Attempt Run)
    (ending : Except Concurrency.Cause Workflow.Result)
    (sent : List Message)
    (committed : Tables) : State Run :=
  { state with
    database := { (state.database.send attempt sent).move attempt (.ended ending) with committed } }

section

variable
  {attempt other : Attempt Run}
  {ending : Except Concurrency.Cause Workflow.Result}
  {sent : List Message}
  {committed : Tables}

theorem phase_attempted_same :
    (state.attempted attempt ending sent committed).database.phase attempt = .ended ending :=
  Concurrency.World.phase_move_same _ _ _

theorem phase_attempted_other (differs : other ≠ attempt) :
    (state.attempted attempt ending sent committed).database.phase other =
      state.database.phase other :=
  Concurrency.World.phase_move_other differs _ _

theorem messages_attempted :
    (state.attempted attempt ending sent committed).messages =
      state.database.sent.map Prod.snd ++ (sent ++ state.letters) := by
  simp [State.messages, State.attempted, Concurrency.World.move, Concurrency.World.send,
    Function.comp_def]

/-- An attempt that has ended holds nothing. -/
theorem Mirrors.attempted
    (mirrors : Mirrors topic state service)
    (rests : after.Rests committed)
    (added : after.broker.sent = service.broker.sent ++ sent)
    (same : after.deadLetters.topic = service.deadLetters.topic) :
    Mirrors topic (state.attempted attempt ending sent committed) after where
  rests := rests
  idle other := by
    change ((state.database.send attempt sent).move attempt (.ended ending)).writes
      Attempt.task other = {}
    rw [Concurrency.World.writes_move]
    split
    · rfl
    · exact mirrors.idle other
  sent := by
    rw [messages_attempted, added]
    refine (List.perm_append_comm.append_left _).trans ?_
    rw [← List.append_assoc]
    exact mirrors.sent.append_right sent
  topic := same.trans mirrors.topic

end

/-- The attempt at which the worker is ends as the unit of work does. -/
theorem leads_unitOfWork
    {left : Nat}
    {result : Except Failure Workflow.Result}
    (retries : Run → Int)
    (mirrors : Mirrors topic state service)
    (attempting : state.dispatching run ticket = .attempting left (service.task envelope))
    (begun : state.attempts run ticket left (service.task envelope) = .begun)
    (performed : (unitOfWork envelope).perform service = (result, after)) :
    ∃ ending next, ending.mapError Concurrency.Cause.toFailure = result
      ∧ Leads topic retries state run ticket (.attempting left (service.task envelope)) after next
      ∧ next.attempts run ticket left (service.task envelope) = .ended ending
      ∧ ∀ lower task, lower ≠ left →
        next.attempts run ticket lower task = state.attempts run ticket lower task := by
  let attempt : Attempt Run := ⟨run, ticket, left, service.task envelope⟩
  have undisturbed : Concurrency.Undisturbed Attempt.task state.database attempt :=
    ⟨begun, fun other _ => mirrors.idle other⟩
  obtain ⟨ending, sent, same, added, reached⟩ :=
    undisturbed.reaches_unitOfWork mirrors.rests rfl performed
  obtain ⟨next, _, -, continues⟩ := Workflow.attempted_unitOfWork mirrors.rests performed
  obtain ⟨_, worked, -⟩ := Workflow.worked_unitOfWork (Service.Worked.refl service) performed
  have rests : after.Rests after.store.committed := by
    rw [continues.rests.store]
    exact continues.rests
  refine ⟨ending, state.attempted attempt ending sent after.store.committed, same, ?_,
    phase_attempted_same, fun lower task differs => ?_⟩
  · exact {
      reaches := reaches_attempts reached fun other phase => by
        obtain rfl : other = attempt := by
          by_contra differs
          exact phase (phase_attempted_other differs)
        exact attempting
      mirrors := mirrors.attempted rests added (by rw [worked.deadLetters])
      consumer := rfl
      dispatching := attempting
      elsewhere := fun _ _ _ => rfl
      untouched := fun other differs =>
        phase_attempted_other fun same => differs (by simp [same, attempt]) }
  · exact phase_attempted_other fun same => differs (congrArg Attempt.left same)

/-- How far the dispatching of a record has come once its order has been handled. -/
def handled (result : Except Failure Workflow.Result) : Dispatching :=
  match result with
  | .ok _ => .ended (.ok .acknowledged)
  | .error failure =>
      if failure.isInterrupt then .ended (.error failure) else .rejecting failure

/-- An attempt that no other one follows settles how the order has been handled. -/
theorem Dispatching.Next.of_ended
    {limit left : Nat}
    {record : Record}
    {phase : Nat → Workflow.Task → Concurrency.Phase}
    {task : Workflow.Task}
    {ending : Except Concurrency.Cause Workflow.Result}
    (ended : phase left task = .ended ending)
    (last : ∀ cause, ending = .error cause → cause.toFailure.isConflict = false ∨ left = 0) :
    Dispatching.Next topic limit record phase (.attempting left task) []
      (handled (ending.mapError Concurrency.Cause.toFailure)) := by
  cases ending with
  | ok result => exact .acknowledge ended
  | error cause =>
      rw [Except.mapError, handled]
      split
      · next interrupted => exact .interrupt ended interrupted
      · next caught => exact .reject ended (last cause rfl) (eq_false_of_ne_true caught)

/-- The worker has handled the order after an attempt that no other one follows. -/
theorem Leads.handle
    {left : Nat}
    {task : Workflow.Task}
    {ending : Except Concurrency.Cause Workflow.Result}
    (leads : Leads topic retries state run item.ticket (.attempting left task) service next)
    (atHand : state.IsAtHand run item)
    (ended : next.attempts run item.ticket left task = .ended ending)
    (last : ∀ cause, ending = .error cause → cause.toFailure.isConflict = false ∨ left = 0)
    (log : List LogLine) :
    ∃ last, Leads topic retries state run item.ticket
      (handled (ending.mapError Concurrency.Cause.toFailure)) { service with log } last := by
  have goesOn : Dispatching.Next topic (retries run).toNat item.job
      (next.attempts run item.ticket) (.attempting left task) [] _ := .of_ended ended last
  rw [← leads.dispatching] at goesOn
  exact ⟨_, leads.trans (leads_log leads.mirrors (leads.isAtHand atHand) goesOn log)⟩

/-- The worker makes the attempts that are left, as they are made without it. -/
theorem leads_attempts
    {left number : Nat}
    {result : Except Failure Workflow.Result}
    (mirrors : Mirrors topic state service)
    (atHand : state.IsAtHand run item)
    (attempting : state.dispatching run item.ticket = .attempting left (service.task envelope))
    (begun : ∀ lower task, lower ≤ left → state.attempts run item.ticket lower task = .begun)
    (performed : (attempts envelope left number).perform service = (result, after)) :
    ∃ next, Leads topic retries state run item.ticket (handled result) after next := by
  induction left generalizing state service number with
  | zero =>
      obtain ⟨ending, worked, rfl, leads, ended, -⟩ :=
        leads_unitOfWork retries mirrors attempting (begun 0 _ (Nat.le_refl 0)) performed
      exact leads.handle atHand ended (fun _ _ => .inr rfl) after.log
  | succ left ih =>
      cases one : (unitOfWork envelope).perform service with
      | mk first between =>
      obtain ⟨ending, worked, rfl, leads, ended, others⟩ :=
        leads_unitOfWork retries mirrors attempting (begun _ _ (Nat.le_refl _)) one
      simp only [attempts, perform_bind, perform_attempt, one] at performed
      cases ending with
      | ok done =>
          cases performed
          exact leads.handle atHand ended (fun _ failed => by cases failed) after.log
      | error cause =>
          cases conflict : cause.toFailure.isConflict with
          | false =>
              simp only [Except.mapError, conflict] at performed
              cases performed
              refine leads.handle atHand ended (fun other failed => .inl ?_) after.log
              cases failed
              exact conflict
          | true =>
              simp only [Except.mapError, conflict, if_true] at performed
              -- The next attempt is made with what the service provides by now.
              let told := ((Workflow.tellConflict envelope number).perform between).2
              have goesOn : Dispatching.Next topic (retries run).toNat item.job
                  (worked.attempts run item.ticket) (worked.dispatching run item.ticket) []
                  (.attempting left (told.task envelope)) := by
                rw [leads.dispatching]
                exact .retry ended conflict rfl
              have again := leads.trans
                (leads_log leads.mirrors (leads.isAtHand atHand) goesOn told.log)
              obtain ⟨last, further⟩ := ih again.mirrors (again.isAtHand atHand) again.dispatching
                (fun lower task below => (others lower task (by omega)).trans
                  (begun lower task (by omega)))
                performed
              exact ⟨last, again.trans further⟩

/-- The worker copies the record to the dead letters, or fails to. -/
theorem leads_reject
    {failure : Failure}
    {result : Except Failure Dispatch.Outcome}
    (mirrors : Mirrors topic state service)
    (atHand : state.IsAtHand run item)
    (rejecting : state.dispatching run item.ticket = .rejecting failure)
    (caught : failure.isInterrupt = false)
    (performed : (Dispatch.reject item.job failure).perform service = (result, after)) :
    ∃ next, Leads topic retries state run item.ticket (.ended result) after next := by
  obtain ⟨letters, disposed, sent, uses⟩ := Dispatch.disposed_reject caught performed
  rw [mirrors.topic] at disposed
  have goesOn : Dispatching.Next topic (retries run).toNat item.job
      (state.attempts run item.ticket) (state.dispatching run item.ticket) letters
      (.ended result) := by
    rw [rejecting]
    cases disposed with
    | deadLettered caught free => exact .copy .acknowledged
    | @lost _ met caught barred => exact .lose (met.sending _)
    | interrupted interrupt => cases caught.symm.trans interrupt
  refine ⟨_, leads_advance mirrors atHand goesOn ⟨?_, ?_⟩ sent (uses.topic .deadLetters)⟩
  · exact uses.store.trans mirrors.rests.store
  · exact uses.storeFaults.trans mirrors.rests.faults

/-- The worker handles the order of the record. -/
theorem leads_handle
    {result : Except Failure Workflow.Result}
    (mirrors : Mirrors topic state service)
    (atHand : state.IsAtHand run item)
    (waiting : state.dispatching run item.ticket = .waiting)
    (begun : ∀ left task, state.attempts run item.ticket left task = .begun)
    (performed : (handle (retries run) item.job.value).perform service = (result, after)) :
    ∃ next, Leads topic retries state run item.ticket (handled result) after next := by
  have moves {log : List LogLine} {dispatching : Dispatching}
      (goesOn : Dispatching.Next topic (retries run).toNat item.job
        (state.attempts run item.ticket) .waiting [] dispatching) :
      Leads topic retries state run item.ticket dispatching { service with log }
        (state.advance run item.ticket dispatching []) :=
    leads_log mirrors atHand (waiting ▸ goesOn) log
  unfold handle at performed
  cases decoded : Event.decodeOrderCompleted item.job.value with
  | ok envelope =>
      simp only [decoded] at performed
      have started := @moves service.log _
        (@Dispatching.Next.start _ _ _ _ (service.task envelope) decoded)
      obtain ⟨next, further⟩ := leads_attempts started.mirrors (started.isAtHand atHand)
        started.dispatching (fun left task _ => begun left task) performed
      exact ⟨next, started.trans further⟩
  | error error =>
      simp only [decoded] at performed
      cases error with
      | shapeMismatch name version =>
          cases performed
          exact ⟨_, moves (.mismatch decoded)⟩
      | malformed issues | invalid name version issues | outOfCalendar =>
          cases performed
          exact ⟨_, @moves service.log _ (.malformed decoded (by simp))⟩

/-- The worker dispatches the record at hand from beginning to end, as it is dispatched by a service
at rest. -/
theorem leads_dispatch
    {result : Except Failure Dispatch.Outcome}
    (mirrors : Mirrors topic state service)
    (atHand : state.IsAtHand run item)
    (waiting : state.dispatching run item.ticket = .waiting)
    (begun : ∀ left task, state.attempts run item.ticket left task = .begun)
    (performed : (Dispatch.dispatch (retries run) item.job).perform service = (result, after)) :
    ∃ next, Leads topic retries state run item.ticket (.ended result) after next := by
  cases handling : (handle (retries run) item.job.value).perform service with
  | mk done between =>
  obtain ⟨next, leads⟩ := leads_handle mirrors atHand waiting begun handling
  simp only [Dispatch.dispatch, perform_bind, perform_attempt, handling] at performed
  cases done with
  | ok done =>
      cases performed
      exact ⟨next, leads.log _⟩
  | error failure =>
      cases interrupt : failure.isInterrupt with
      | true =>
          simp only [interrupt, if_true, perform_fail] at performed
          cases performed
          simp only [handled, interrupt, if_true] at leads
          exact ⟨next, leads⟩
      | false =>
          simp only [interrupt, Bool.false_eq_true, if_false] at performed
          simp only [handled, interrupt, Bool.false_eq_true, if_false] at leads
          obtain ⟨last, further⟩ := leads_reject leads.mirrors (leads.isAtHand atHand)
            leads.dispatching interrupt performed
          exact ⟨last, leads.trans further⟩

end Operation
end Fulfilment
