import Fulfilment.Digest.Md5
import Fulfilment.Failure
import Fulfilment.Log

/-!
# Workers of a pool

A worker has a queue of its own and runs what stands there one item at a time, in order.  Whoever
offers an item to a full queue waits until there is room.  Each item has a ticket, which tells
how it ended.  The steps of a worker are the steps of the whole pool: take the next entry, finish
the item at hand, let a waiting offer in.
-/

namespace Fulfilment
namespace Pool

/-- A job that a pool was given, under the key that it is ordered by. -/
structure Item (Job : Type) where
  ticket : Nat
  key : String
  job : Job
deriving Repr

/-- What stands in a queue: an item, or the sign to stop. -/
inductive Entry (Job : Type) where
  | work (item : Item Job)
  | stop
deriving Repr

/-- How far an item is. -/
inductive Ticket (Value : Type) where
  /-- It waits for room in the queue. -/
  | offered
  /-- It stands in the queue. -/
  | pending
  /-- A worker has begun it. -/
  | running
  /-- It was taken back before a worker began it. -/
  | cancelled
  /-- It ended with a value or a failure. -/
  | finished (result : Except Failure Value)

/-- What the workers of a pool share: tickets, counts, which worker ran which item in what order,
and the log. -/
structure Board (Value : Type) where
  tickets : List (Ticket Value) := []
  submitted : Nat := 0
  processed : Nat := 0
  failed : Nat := 0
  history : List (Nat × Nat) := []
  log : List LogLine := []

namespace Board

/-- Write a line to the log. -/
def tell
    (board : Board Value)
    (level : LogLevel)
    (text : String) : Board Value :=
  { board with log := board.log ++ [⟨.pool, level, text⟩] }

/-- Set a ticket. -/
def setTicket
    (board : Board Value)
    (ticket : Nat)
    (state : Ticket Value) : Board Value :=
  { board with tickets := board.tickets.set ticket state }

/-- A new ticket. -/
def issue (board : Board Value) : Nat × Board Value :=
  (board.tickets.length, { board with tickets := board.tickets ++ [.offered] })

/-- Note that an entry has come into a queue; only items are counted. -/
def countIn
    (board : Board Value)
    (entry : Entry Job) : Board Value :=
  match entry with
  | .work item => { board.setTicket item.ticket .pending with submitted := board.submitted + 1 }
  | .stop => board

/-- Whether the ticket of an item was cancelled. -/
def isCancelled
    (board : Board Value)
    (ticket : Nat) : Bool :=
  match board.tickets[ticket]? with
  | some .cancelled => true
  | _ => false

/-- Note that a worker begins an item. -/
def begin
    (board : Board Value)
    (worker : Nat)
    (ticket : Nat) : Board Value :=
  { board.setTicket ticket .running with history := board.history ++ [(worker, ticket)] }

/-- Note how an item ended.  An interrupt reaches nobody but the thread that controls the pool, so it
is never how an item ends: a failure is an error of the job, after which its worker goes on. -/
def finish
    (board : Board Value)
    (worker : Nat)
    (item : Item Job)
    (result : Except Failure Value) : Board Value :=
  let noted := board.setTicket item.ticket (.finished result)
  match result with
  | .ok _ => { noted with processed := noted.processed + 1 }
  | .error failure =>
      { noted with failed := noted.failed + 1 }.tell .error
        s!"Worker {worker} error processing {item.key}: {failure.message}"

end Board

/-- A worker: its queue, who waits for room in it, and the item at hand. -/
structure Worker (Job : Type) where
  index : Nat
  queue : List (Entry Job) := []
  waiting : List (Entry Job) := []
  current : Option (Item Job) := none
  stopped : Bool := false

namespace Worker

/-- Whether a queue of a capacity has room; a capacity below one is no limit. -/
def hasRoom
    (capacity : Int)
    (worker : Worker Job) : Bool :=
  capacity < 1 || (worker.queue.length : Int) < capacity

/-- Offer an entry: it comes into the queue if there is room and nobody waits, else it waits. -/
def offer
    (capacity : Int)
    (worker : Worker Job)
    (board : Board Value)
    (entry : Entry Job) : Bool × Worker Job × Board Value :=
  if worker.hasRoom capacity && worker.waiting.isEmpty then
    (true, { worker with queue := worker.queue ++ [entry] }, board.countIn entry)
  else (false, { worker with waiting := worker.waiting ++ [entry] }, board)

/-- Let the first waiting entry in, if there is room. -/
def letIn?
    (capacity : Int)
    (worker : Worker Job)
    (board : Board Value) : Option (Worker Job × Board Value) :=
  match worker.waiting with
  | [] => none
  | entry :: waiting =>
      if worker.hasRoom capacity then
        some ({ worker with queue := worker.queue ++ [entry], waiting }, board.countIn entry)
      else none

/-- Take the next entry, if no item is at hand.  A cancelled item is dropped, and the sign to stop
ends the worker. -/
def take?
    (worker : Worker Job)
    (board : Board Value) : Option (Worker Job × Board Value) :=
  if worker.stopped || worker.current.isSome then none
  else
    match worker.queue with
    | [] => none
    | .stop :: queue => some ({ worker with queue, stopped := true }, board)
    | .work item :: queue =>
        if board.isCancelled item.ticket then some ({ worker with queue }, board)
        else
          let begun := board.begin worker.index item.ticket
          some ({ worker with queue, current := some item }, begun)

/-- Finish the item at hand, if it may finish. -/
def finish?
    (mayFinish : Job → Bool)
    (run : Job → State → Except Failure Value × State)
    (worker : Worker Job)
    (board : Board Value)
    (state : State) : Option (Worker Job × Board Value × State) :=
  match worker.current with
  | none => none
  | some item =>
      if mayFinish item.job then
        let (result, state) := run item.job state
        some ({ worker with current := none }, board.finish worker.index item result, state)
      else none

/-- One step of a worker: finish the item at hand, else take the next entry, else let a waiting
offer in. -/
def step?
    (capacity : Int)
    (mayFinish : Job → Bool)
    (run : Job → State → Except Failure Value × State)
    (worker : Worker Job)
    (board : Board Value)
    (state : State) : Option (Worker Job × Board Value × State) :=
  match finish? mayFinish run worker board state with
  | some next => some next
  | none =>
      match (letIn? capacity worker board).or (take? worker board) with
      | some (worker, board) => some (worker, board, state)
      | none => none

/-- As many steps as a worker can make, at most `fuel`. -/
def runFrom
    (capacity : Int)
    (mayFinish : Job → Bool)
    (run : Job → State → Except Failure Value × State) :
    Nat → Worker Job → Board Value → State → Worker Job × Board Value × State
  | 0, worker, board, state => (worker, board, state)
  | fuel + 1, worker, board, state =>
      match step? capacity mayFinish run worker board state with
      | some (worker, board, state) => runFrom capacity mayFinish run fuel worker board state
      | none => (worker, board, state)

/-- More steps than a worker can make before it needs a new offer: each entry is let in, taken and
finished at most once. -/
def stepBound (worker : Worker Job) : Nat :=
  3 * worker.waiting.length + 2 * worker.queue.length + 2

/-- Let a worker run until it can make no further step. -/
def settle
    (capacity : Int)
    (mayFinish : Job → Bool)
    (run : Job → State → Except Failure Value × State)
    (worker : Worker Job)
    (board : Board Value)
    (state : State) : Worker Job × Board Value × State :=
  runFrom capacity mayFinish run worker.stepBound worker board state

end Worker

end Pool
end Fulfilment
