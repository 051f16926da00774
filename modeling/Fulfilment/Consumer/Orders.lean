import Fulfilment.Dispatch
import Fulfilment.Pool.Basic

/-!
# Consumer of orders

The consumer polls batches of records, gives every record to the pool, and commits the batch once
all of its records were handled.  If handling one of them fails, the others are still handled,
nothing is committed, and the failure of the first such record ends the run.
-/

namespace Fulfilment
namespace Consumer

/-- The records of one poll, by partition. -/
abbrev Batch (Rec : Type) := List (List Rec)

/-- What a consumer was asked, in order: a poll with the records that it gave, a commit of offsets,
or to close. -/
inductive ConsumerCall (Rec : Type) where
  | poll (records : List Rec)
  | commit
  | close
deriving DecidableEq, Repr

/-- A consumer: what it is subscribed to, the faults of the next commits and the failure of every
later one, what it was asked, how many commits succeeded, whether it was closed, and its pool. -/
structure Subscriber (Rec : Type) where
  subscription : String
  commitFaults : List (Option Failure) := []
  commitFailure : Option Failure := none
  calls : List (ConsumerCall Rec) := []
  commits : Nat := 0
  closed : Bool := false
  pool : Pool Rec Dispatch.Outcome

/-- A consumer with the service around it. -/
structure Running (Rec : Type) where
  consumer : Subscriber Rec
  service : Service

/-- A change of a running consumer. -/
abbrev Loop (Rec : Type) := Change (Running Rec)

namespace Loop

/-- Carry out an action of the service. -/
def inService (action : Action α) : Loop Rec α :=
  Change.within Running.service (fun service running => { running with service }) action

/-- Write a line to the log. -/
def tell
    (level : LogLevel)
    (text : String) : Loop Rec Unit :=
  inService (Action.tell .consumer level text)

/-- How the item of a ticket ended. -/
def outcome (ticket : Nat) : Loop Rec (Except Failure Dispatch.Outcome) := do
  let running ← get
  match running.consumer.pool.ticket? ticket with
  | some (.finished result) => return result
  | some .offered | some .pending | some .running | some .cancelled | none =>
      return .error (.badState "the item has not ended")

/-- Note what the consumer is asked. -/
def note (call : ConsumerCall Rec) : Loop Rec Unit :=
  modify fun running =>
    { running with consumer := { running.consumer with calls := running.consumer.calls ++ [call] } }

/-- Take the fault of the next commit. -/
def nextCommitFault : Loop Rec (Option Failure) := do
  let running ← get
  let consumer := running.consumer
  set { running with consumer := { consumer with commitFaults := consumer.commitFaults.tail } }
  return consumer.commitFaults.headD consumer.commitFailure

/-- Commit the offsets of a batch. -/
def commit : Loop Rec Unit := do
  note .commit
  match ← nextCommitFault with
  | some failure => Change.fail failure
  | none =>
      modify fun running =>
        { running with
          consumer := { running.consumer with commits := running.consumer.commits + 1 } }

/-- Close the consumer. -/
def close : Loop Rec Unit := do
  note .close
  modify fun running => { running with consumer := { running.consumer with closed := true } }

end Loop

/-- How many records were acknowledged and how many dead-lettered. -/
structure Counts where
  acknowledged : Nat := 0
  deadLettered : Nat := 0
deriving DecidableEq, Repr

/-- One more record of an outcome. -/
def Counts.add
    (counts : Counts)
    (outcome : Dispatch.Outcome) : Counts :=
  match outcome with
  | .acknowledged => { counts with acknowledged := counts.acknowledged + 1 }
  | .deadLettered => { counts with deadLettered := counts.deadLettered + 1 }

/-- The counts of a batch, or the failure of its first failed record. -/
def tally (outcomes : List (Except Failure Dispatch.Outcome)) : Except Failure Counts :=
  outcomes.foldlM (fun counts outcome => outcome.map counts.add) {}

/-- A running consumer after its pool has run: what the pool logged goes to the service's log. -/
def Running.afterPool
    (running : Running Rec)
    (pool : Pool Rec Dispatch.Outcome)
    (service : Service) : Running Rec where
  consumer := { running.consumer with pool := { pool with board := { pool.board with log := [] } } }
  service := { service with log := service.log ++ pool.board.log }

/-- How the consumer treats records: the key that orders them, and what becomes of one. -/
structure Handler (Rec : Type) where
  key : Rec → String
  dispatch : Rec → Action Dispatch.Outcome

namespace Handler

/-- Run the pool of a consumer: its jobs are records to be dispatched. -/
def settle (handler : Handler Rec) : Loop Rec Unit :=
  modify fun running =>
    let (pool, service) := running.consumer.pool.settle (fun _ => true)
      (fun record service => (handler.dispatch record).perform service) running.service
    running.afterPool pool service

/-- Give a record to the pool and let the pool run. -/
def submit
    (handler : Handler Rec)
    (record : Rec) : Loop Rec Nat := do
  let running ← get
  match running.consumer.pool.submit (handler.key record) record with
  | .error failure => Change.fail failure
  | .ok (submission, pool) =>
      set { running with consumer := { running.consumer with pool } }
      handler.settle
      return submission.ticket

/-- Handle the records of one poll and commit them. -/
def pollBatch
    (handler : Handler Rec)
    (batch : Batch Rec) : Loop Rec Counts := do
  let records := batch.flatten
  Loop.note (.poll records)
  if records.isEmpty then return {}
  let tickets ← records.mapM handler.submit
  let outcomes ← tickets.mapM Loop.outcome
  let counts ← Change.resume (tally outcomes)
  Loop.commit
  Loop.tell .info
    (s!"Committed batch of {records.length} record(s): {counts.acknowledged} acknowledged, "
      ++ s!"{counts.deadLettered} dead-lettered")
  return counts

/-- Stop the pool once everything queued has run. -/
def stopPool (handler : Handler Rec) : Loop Rec Unit :=
  modify fun running =>
    let (pool, service) := running.consumer.pool.stop (fun _ => true)
      (fun record service => (handler.dispatch record).perform service) running.service
    running.afterPool pool service

/-- Handle polls one after another; when they are used up, fail or stop. -/
def pollAll
    (handler : Handler Rec)
    (polls : List (Batch Rec))
    (ending : Option Failure) : Loop Rec Unit :=
  match polls with
  | [] =>
      match ending with
      | some failure => Change.fail failure
      | none => return
  | batch :: rest => do
      let _ ← handler.pollBatch batch
      pollAll handler rest ending

/-- Carry out the work of a run.  However it ends, the pool is stopped and the consumer closed. -/
def around
    (handler : Handler Rec)
    (work : Loop Rec Unit) : Loop Rec Unit := do
  let subscription := (← get).consumer.subscription
  Loop.tell .info s!"Listening for messages on topic(s): {subscription}"
  let attempted ← Change.attempt work
  handler.stopPool
  Loop.close
  Loop.tell .info "Order completed consumer stopped"
  Change.resume attempted

/-- Run until a poll, a record or a commit fails or the polls are used up. -/
def run
    (handler : Handler Rec)
    (polls : List (Batch Rec))
    (ending : Option Failure) : Loop Rec Unit :=
  handler.around (handler.pollAll polls ending)

/-- The treatment of records by the service, with so many retries after conflicts. -/
def ofService (retries : Int) : Handler Record where
  key := Record.orderKey
  dispatch := Dispatch.dispatch retries

end Handler

end Consumer
end Fulfilment
