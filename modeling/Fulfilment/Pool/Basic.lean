import Fulfilment.Pool.Worker

/-!
# Keyed worker pool

A pool gives every key to one of its workers, so that the items of a key run one at a time and in
the order in which they were submitted.  Stopping runs what is queued first; a stopped pool takes
nothing and can be started again.
-/

namespace Fulfilment

/-- A pool of workers.  The workers of earlier starts are kept until they are done. -/
structure Pool (Job Value : Type) where
  name : String
  workerCount : Nat
  capacity : Int
  active : Bool := false
  workers : List (Pool.Worker Job) := []
  former : List (Pool.Worker Job) := []
  board : Pool.Board Value := {}

namespace Pool

/-- The name of a pool that is given none. -/
def defaultName : String := "worker_pool"

/-- A pool that is not started yet; it needs at least one worker. -/
def create?
    (name : String)
    (workerCount capacity : Int) : Except Failure (Pool Job Value) :=
  if workerCount < 1 then .error (.badValue "num_workers must be at least 1")
  else .ok { name, workerCount := workerCount.toNat, capacity }

/-- The worker of a key among so many workers. -/
def workerIndex
    (key : String)
    (workerCount : Nat) : Nat :=
  Md5.number (Text.encode key) % workerCount

/-- Write a line to the pool's log. -/
def tell
    (pool : Pool Job Value)
    (level : LogLevel)
    (text : String) : Pool Job Value :=
  { pool with board := pool.board.tell level text }

/-- Start the workers. -/
def start (pool : Pool Job Value) : Pool Job Value :=
  if pool.active then pool.tell .warning s!"Worker pool '{pool.name}' already running"
  else
    let started := { pool with
      active := true
      former := pool.former ++ pool.workers.filter fun worker : Worker Job => !worker.stopped
      workers := (List.range pool.workerCount).map fun index => { index } }
    started.tell .info
      (s!"Worker pool '{pool.name}' started: workers={pool.workerCount}, "
        ++ s!"queue_size={pool.capacity}")

/-- Offer an entry to the worker of an index: whether it came into the queue, and the pool. -/
def offer
    (pool : Pool Job Value)
    (index : Nat)
    (entry : Entry Job) : Bool × Pool Job Value :=
  match pool.workers[index]? with
  | none => (false, pool)
  | some worker =>
      let (entered, worker, board) := worker.offer pool.capacity pool.board entry
      (entered, { pool with workers := pool.workers.set index worker, board })

/-- What became of a submitted job: its worker, its ticket, and whether it waits for room. -/
structure Submission where
  worker : Nat
  ticket : Nat
  blocked : Bool
deriving DecidableEq, Repr

/-- Submit a job under a key. -/
def submit
    (pool : Pool Job Value)
    (key : String)
    (job : Job) : Except Failure (Submission × Pool Job Value) :=
  if pool.active then
    let worker := workerIndex key pool.workerCount
    let (ticket, board) := pool.board.issue
    let (entered, pool) := { pool with board }.offer worker (.work ⟨ticket, key, job⟩)
    .ok (⟨worker, ticket, !entered⟩, pool)
  else .error (.badState s!"Worker pool '{pool.name}' is not running")

/-- Let each of some workers run until it can make no further step. -/
def settleAll
    (capacity : Int)
    (mayFinish : Job → Bool)
    (run : Job → State → Except Failure Value × State) :
    List (Worker Job) → Board Value → State → List (Worker Job) × Board Value × State
  | [], board, state => ([], board, state)
  | worker :: rest, board, state =>
      let (worker, board, state) := worker.settle capacity mayFinish run board state
      let (rest, board, state) := settleAll capacity mayFinish run rest board state
      (worker :: rest, board, state)

/-- Let every worker run until it can make no further step. -/
def settle
    (mayFinish : Job → Bool)
    (run : Job → State → Except Failure Value × State)
    (pool : Pool Job Value)
    (state : State) : Pool Job Value × State :=
  let (former, board, state) :=
    settleAll pool.capacity mayFinish run pool.former pool.board state
  let (workers, board, state) :=
    settleAll pool.capacity mayFinish run pool.workers board state
  ({ pool with former := former.filter fun worker => !worker.stopped, workers, board }, state)

/-- Offer the sign to stop to every worker. -/
def offerStop (pool : Pool Job Value) : Pool Job Value :=
  (List.range pool.workers.length).foldl (fun pool index => (pool.offer index .stop).2) pool

/-- Stop the pool once everything queued has run, as far as it may finish. -/
def stop
    (mayFinish : Job → Bool)
    (run : Job → State → Except Failure Value × State)
    (pool : Pool Job Value)
    (state : State) : Pool Job Value × State :=
  if pool.active then
    let stopping :=
      { pool with active := false }.tell .info s!"Stopping worker pool '{pool.name}'..."
    let (stopped, state) := settle mayFinish run stopping.offerStop state
    let board := stopped.board
    (stopped.tell .info
      (s!"Worker pool '{pool.name}' stopped. Processed: {board.processed}, "
        ++ s!"Errors: {board.failed}"), state)
  else (pool, state)

/-- Cancel an item that stands in a queue: whether it is cancelled, and the pool. -/
def cancel
    (pool : Pool Job Value)
    (ticket : Nat) : Bool × Pool Job Value :=
  match pool.board.tickets[ticket]? with
  | some .pending | some .cancelled =>
      (true, { pool with board := pool.board.setTicket ticket .cancelled })
  | some .offered | some .running | some (.finished _) | none => (false, pool)

/-- How far the item of a ticket is. -/
def ticket?
    (pool : Pool Job Value)
    (ticket : Nat) : Option (Ticket Value) :=
  pool.board.tickets[ticket]?

/-- How many entries stand in each queue. -/
def depths (pool : Pool Job Value) : List Nat :=
  pool.workers.map fun worker => worker.queue.length

/-- Which items each worker has begun, in order. -/
def ranBy
    (pool : Pool Job Value)
    (worker : Nat) : List Nat :=
  (pool.board.history.filter fun entry => entry.1 = worker).map Prod.snd

end Pool

end Fulfilment
