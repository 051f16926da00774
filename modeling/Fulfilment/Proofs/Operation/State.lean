import Fulfilment.Dispatch
import Fulfilment.Proofs.Concurrency.World
import Fulfilment.Proofs.Consumer.Coverage
import Fulfilment.Proofs.Publish.Obstacle
import Mathlib.Logic.Function.Basic

/-!
# Operation

Any number of consumers of orders work on one database and one broker, side by side or one after the
other, and may poll any records again.  The thread of each run and the workers of its pool take
their turns in any order.  A worker does not dispatch its record at one stroke: it reads the body,
attempts to fulfil the order, attempts it again after a conflict as often as retries are left, and
copies the record to the dead letters if that fails.  Between any two steps of an attempt come those
of the attempts of other workers, in the same run or in others.
-/

namespace Fulfilment
namespace Operation

/-- An attempt to fulfil an order: the run and the ticket of the record, how many retries are left
if the attempt meets a conflict, and what the attempt is made with. -/
structure Attempt (Run : Type) where
  run : Run
  ticket : Nat
  left : Nat
  task : Workflow.Task
deriving DecidableEq

/-- How far the dispatching of a record has come. -/
inductive Dispatching where
  /-- The body is not read yet. -/
  | waiting
  /-- The order is being attempted. -/
  | attempting (left : Nat) (task : Workflow.Task)
  /-- The record is to be copied to the dead letters. -/
  | rejecting (failure : Failure)
  /-- The record has an outcome, or dispatching it has failed. -/
  | ended (result : Except Failure Dispatch.Outcome)

/-- How the dispatching of a record goes on, with the letters that are sent, given how far the
attempts at its order have come. -/
inductive Dispatching.Next
    (topic : String)
    (retries : Nat)
    (record : Record)
    (phase : Nat → Workflow.Task → Concurrency.Phase) :
    Dispatching → List Message → Dispatching → Prop where
  /-- The body is an event of another shape, so there is nothing to do. -/
  | mismatch {name : String} {version : Int}
      (decoded : Event.decodeOrderCompleted record.value = .error (.shapeMismatch name version)) :
      Next topic retries record phase .waiting [] (.ended (.ok .acknowledged))
  /-- The body cannot be read. -/
  | malformed {error : DecodeError}
      (decoded : Event.decodeOrderCompleted record.value = .error error)
      (other : ∀ name version, error ≠ .shapeMismatch name version) :
      Next topic retries record phase .waiting [] (.rejecting error.toFailure)
  /-- The order is attempted for the first time. -/
  | start {task : Workflow.Task}
      (decoded : Event.decodeOrderCompleted record.value = .ok task.envelope) :
      Next topic retries record phase .waiting [] (.attempting retries task)
  /-- The attempt has given a result. -/
  | acknowledge {left : Nat} {task : Workflow.Task} {result : Workflow.Result}
      (ended : phase left task = .ended (.ok result)) :
      Next topic retries record phase (.attempting left task) [] (.ended (.ok .acknowledged))
  /-- The attempt has met a conflict, and there are retries left. -/
  | retry {left : Nat} {task again : Workflow.Task} {cause : Concurrency.Cause}
      (ended : phase (left + 1) task = .ended (.error cause))
      (conflict : cause.toFailure.isConflict = true)
      (same : again.envelope = task.envelope) :
      Next topic retries record phase (.attempting (left + 1) task) [] (.attempting left again)
  /-- The attempt has failed, and it is the last one. -/
  | reject {left : Nat} {task : Workflow.Task} {cause : Concurrency.Cause}
      (ended : phase left task = .ended (.error cause))
      (last : cause.toFailure.isConflict = false ∨ left = 0)
      (caught : cause.toFailure.isInterrupt = false) :
      Next topic retries record phase (.attempting left task) [] (.rejecting cause.toFailure)
  /-- The attempt was interrupted. -/
  | interrupt {left : Nat} {task : Workflow.Task} {cause : Concurrency.Cause}
      (ended : phase left task = .ended (.error cause))
      (interrupted : cause.toFailure.isInterrupt = true) :
      Next topic retries record phase (.attempting left task) [] (.ended (.error cause.toFailure))
  /-- The broker has acknowledged the copy. -/
  | copy {failure : Failure} {letters : List Message}
      (sending : Sending (DeadLetter.letter topic record failure.description) (.ok ()) letters) :
      Next topic retries record phase (.rejecting failure) letters (.ended (.ok .deadLettered))
  /-- The copy has failed, and the failure goes on to the caller. -/
  | lose {failure cause : Failure} {letters : List Message}
      (sending :
        Sending (DeadLetter.letter topic record failure.description) (.error cause) letters) :
      Next topic retries record phase (.rejecting failure) letters
        (.ended (.error (DeadLetter.failure topic cause)))

/-- The consumers of all runs, how far each run has come with the records of its tickets, the
database with the attempts at it, and the letters that were sent. -/
structure State (Run : Type) where
  consumer : Run → Consumer.World Record
  dispatching : Run → Nat → Dispatching
  database : Concurrency.World (Attempt Run)
  letters : List Message

namespace State

variable {Run : Type}

/-- What the consumer of a run was asked. -/
def calls
    (state : State Run)
    (run : Run) : List (Consumer.ConsumerCall Record) :=
  (state.consumer run).running.consumer.calls

/-- The messages that were sent, the events and the letters. -/
def messages (state : State Run) : List Message :=
  state.database.sent.map Prod.snd ++ state.letters

/-- How far the attempts at the record of a ticket have come. -/
def attempts
    (state : State Run)
    (run : Run)
    (ticket : Nat)
    (left : Nat)
    (task : Workflow.Task) : Concurrency.Phase :=
  state.database.phase ⟨run, ticket, left, task⟩

/-- A record was polled in some run. -/
def Polled
    (state : State Run)
    (record : Record) : Prop :=
  ∃ run, record ∈ Consumer.polled (state.calls run)

/-- A worker of a run has an item at hand. -/
def IsAtHand
    (state : State Run)
    (run : Run)
    (item : Pool.Item Record) : Prop :=
  ∃ worker ∈ (state.consumer run).running.consumer.pool.workers, worker.current = some item

/-- Every run has a consumer that was asked nothing, with a pool that was just started, and nothing
was done in the database. -/
structure IsFirst
    (tables : Tables)
    (state : State Run) : Prop where
  consumers : ∀ run, ∃ running : Consumer.Running Record, ∃ name workerCount capacity pool,
    state.consumer run = ⟨running, .free, .polling⟩
      ∧ running.consumer.calls = []
      ∧ Pool.create? name workerCount capacity = .ok pool
      ∧ running.consumer.pool = pool.start
  dispatching : ∀ run ticket, state.dispatching run ticket = .waiting
  database : state.database = .start tables
  letters : state.letters = []

variable [DecidableEq Run]

/-- The state after the consumer of a run has come to a world. -/
def turn
    (state : State Run)
    (run : Run)
    (world : Consumer.World Record) : State Run :=
  { state with consumer := Function.update state.consumer run world }

/-- The state after the record of a ticket has been dispatched further, with the letters sent. -/
def advance
    (state : State Run)
    (run : Run)
    (ticket : Nat)
    (dispatching : Dispatching)
    (letters : List Message) : State Run :=
  { state with
    dispatching := Function.update state.dispatching run
      (Function.update (state.dispatching run) ticket dispatching)
    letters := state.letters ++ letters }

section

variable {run other : Run}

@[simp] theorem consumer_turn_same
    (state : State Run)
    (run : Run)
    (world : Consumer.World Record) : (state.turn run world).consumer run = world :=
  Function.update_self ..

theorem consumer_turn_other
    (differs : other ≠ run)
    (state : State Run)
    (world : Consumer.World Record) :
    (state.turn run world).consumer other = state.consumer other :=
  Function.update_of_ne differs ..

@[simp] theorem dispatching_advance_same
    (state : State Run)
    (run : Run)
    (ticket : Nat)
    (dispatching : Dispatching)
    (letters : List Message) :
    (state.advance run ticket dispatching letters).dispatching run =
      Function.update (state.dispatching run) ticket dispatching :=
  Function.update_self ..

theorem dispatching_advance_other
    (differs : other ≠ run)
    (state : State Run)
    (ticket : Nat)
    (dispatching : Dispatching)
    (letters : List Message) :
    (state.advance run ticket dispatching letters).dispatching other = state.dispatching other :=
  Function.update_of_ne differs ..

end

end State

variable
  {Run : Type}
  [DecidableEq Run]

/-- One step of the thread of a run, of one of its workers, or of an attempt. -/
inductive Step
    (topic : String)
    (retries : Run → Int)
    (state : State Run) : State Run → Prop where
  /-- A move of the thread or of a worker.  What the handler of the move does when a record ends is
  that it ends as dispatching it has ended. -/
  | move {handler : Consumer.Handler Record} {notices : List (Consumer.Notice Record)}
      {world : Consumer.World Record}
      (run : Run)
      (keyed : handler.key = Record.orderKey)
      (move : Consumer.Move handler (state.consumer run) notices world)
      (ends : ∀ item result, .pooled (.ended item result) ∈ notices →
        state.dispatching run item.ticket = .ended result) :
      Step topic retries state (state.turn run world)
  /-- The thread is interrupted while it handles a batch. -/
  | interrupt
      (run : Run)
      (busy : (state.consumer run).phase.isBusy = true)
      (message : String) :
      Step topic retries state
        (state.turn run
          { state.consumer run with phase := .ending (some (.interrupt message)) })
  /-- The logs of a run are written to. -/
  | log
      (run : Run)
      (poolLog log : List LogLine) :
      Step topic retries state (state.turn run ((state.consumer run).logging poolLog log))
  /-- The service around a run changes.  Nothing of it counts here, since the database and the
  messages are those of the state. -/
  | serve
      (run : Run)
      (service : Service) :
      Step topic retries state
        (state.turn run
          { state.consumer run with running := ⟨(state.consumer run).running.consumer, service⟩ })
  /-- A worker goes on with the record at hand. -/
  | dispatch {item : Pool.Item Record} {dispatching : Dispatching} {letters : List Message}
      (run : Run)
      (atHand : state.IsAtHand run item)
      (next : Dispatching.Next topic (retries run).toNat item.job
        (state.attempts run item.ticket) (state.dispatching run item.ticket) letters dispatching) :
      Step topic retries state (state.advance run item.ticket dispatching letters)
  /-- An attempt at which a worker is takes a step. -/
  | attempt {database : Concurrency.World (Attempt Run)}
      (step : Concurrency.Step Attempt.task state.database database)
      (current : ∀ attempt, database.phase attempt ≠ state.database.phase attempt →
        state.dispatching attempt.run attempt.ticket = .attempting attempt.left attempt.task) :
      Step topic retries state { state with database }

/-- The states that steps lead to, in any order. -/
inductive Reaches
    (topic : String)
    (retries : Run → Int)
    (first : State Run) : State Run → Prop where
  | refl : Reaches topic retries first first
  | step {state next : State Run}
      (before : Reaches topic retries first state)
      (step : Step topic retries state next) : Reaches topic retries first next

end Operation
end Fulfilment
