import Fulfilment.Consumer.Orders
import Fulfilment.Proofs.Pool.Progress

/-!
# Interleaved runs of a consumer

The thread of a consumer polls, gives every record to the pool, waits for one ticket after the
other, commits, and polls again; in the end it stops the pool and closes the consumer.  Between any
two of its moves the workers of the pool make their steps, in any order, so records may end in
another order than that of the batch.  The thread may be told to stop, a poll may fail, and it may
be interrupted while it gives records or waits.
-/

namespace Fulfilment
namespace Consumer

/-- Where the thread of a consumer is. -/
inductive Phase (Rec : Type) where
  /-- It is about to poll. -/
  | polling
  /-- It has polled records, has tickets for some, and is left to give the others to the pool. -/
  | giving (records : List Rec) (tickets : List Nat) (left : List Rec)
  /-- It knows the first outcomes of the records that it polled, and waits for the tickets left. -/
  | awaiting (records : List Rec) (outcomes : List (Except Failure Dispatch.Outcome))
      (left : List Nat)
  /-- It has left the loop, because of a failure or because it was told to stop. -/
  | ending (failure : Option Failure)
  /-- It has stopped the pool and closed the consumer. -/
  | closed (failure : Option Failure)

/-- Whether a batch is being handled. -/
def Phase.isBusy : Phase Rec → Bool
  | .giving _ _ _ | .awaiting _ _ _ => true
  | .polling | .ending _ | .closed _ => false

/-- A running consumer, where its thread is, and where that is in stopping the pool. -/
structure World (Rec : Type) where
  running : Running Rec
  control : Pool.Control := .free
  phase : Phase Rec := .polling

/-- What is seen of a run. -/
inductive Notice (Rec : Type) where
  /-- The consumer was asked something. -/
  | called (call : ConsumerCall Rec)
  /-- Something happened in the pool. -/
  | pooled (event : Pool.Event Rec Dispatch.Outcome)
  /-- A poll was handled, with counts of its records. -/
  | returned (counts : Counts)
  /-- The commit that the consumer was asked for failed. -/
  | uncommitted (failure : Failure)

namespace World

/-- The pool of a world, and the service that its jobs work on. -/
def site (world : World Rec) : Pool.Site Rec Dispatch.Outcome Service where
  pool := world.running.consumer.pool
  control := world.control
  state := world.running.service

/-- A world after a step of the pool. -/
def stepped
    (world : World Rec)
    (site : Pool.Site Rec Dispatch.Outcome Service)
    (phase : Phase Rec) : World Rec where
  running := ⟨{ world.running.consumer with pool := site.pool }, site.state⟩
  control := site.control
  phase

/-- A world with other logs. -/
def logging
    (world : World Rec)
    (poolLog log : List LogLine) : World Rec :=
  let pool := world.running.consumer.pool
  { world with
    running := ⟨{ world.running.consumer with
      pool := { pool with board := { pool.board with log := poolLog } } },
      { world.running.service with log }⟩ }

end World

/-- The job of the pool: dispatch a record. -/
def Handler.job
    (handler : Handler Rec)
    (record : Rec)
    (service : Service) : Except Failure Dispatch.Outcome × Service :=
  (handler.dispatch record).perform service

/-- The item of a record in the pool. -/
def Handler.item
    (handler : Handler Rec)
    (ticket : Nat)
    (record : Rec) : Pool.Item Rec :=
  ⟨ticket, handler.key record, record⟩

/-- A move of the thread or of a worker, with what is seen of it. -/
inductive Move (handler : Handler Rec) (world : World Rec) :
    List (Notice Rec) → World Rec → Prop where
  | pollNothing {batch : Batch Rec}
      (polling : world.phase = .polling)
      (none : batch.flatten = []) :
      Move handler world [.called (.poll []), .returned {}]
        { world with running := ((Loop.note (.poll [])).perform world.running).2 }
  | poll {batch : Batch Rec}
      (polling : world.phase = .polling)
      (some : batch.flatten ≠ []) :
      Move handler world [.called (.poll batch.flatten)]
        { world with
          running := ((Loop.note (.poll batch.flatten)).perform world.running).2
          phase := .giving batch.flatten [] batch.flatten }
  /-- Give a record to the pool, once there is room for it. -/
  | give {records left : List Rec} {tickets : List Nat} {record : Rec} {ticket : Nat}
      {site : Pool.Site Rec Dispatch.Outcome Service}
      (giving : world.phase = .giving records tickets (record :: left))
      (step : Pool.Step handler.job world.site (.accepted (handler.item ticket record)) site) :
      Move handler world [.pooled (.accepted (handler.item ticket record))]
        (world.stepped site (.giving records (tickets ++ [ticket]) left))
  | refuse {records left : List Rec} {tickets : List Nat} {record : Rec} {failure : Failure}
      (giving : world.phase = .giving records tickets (record :: left))
      (refused : world.running.consumer.pool.submit (handler.key record) record =
        .error failure) :
      Move handler world [.pooled (.refused failure)] { world with phase := .ending failure }
  | wait {records : List Rec} {tickets : List Nat}
      (giving : world.phase = .giving records tickets []) :
      Move handler world [] { world with phase := .awaiting records [] tickets }
  /-- Take note of how a record ended, once it has. -/
  | collect {records : List Rec} {outcomes : List (Except Failure Dispatch.Outcome)}
      {ticket : Nat} {left : List Nat} {result : Except Failure Dispatch.Outcome}
      (awaiting : world.phase = .awaiting records outcomes (ticket :: left))
      (ended : world.running.consumer.pool.ticket? ticket = some (.finished result)) :
      Move handler world [] { world with phase := .awaiting records (outcomes ++ [result]) left }
  | fail {records : List Rec} {outcomes : List (Except Failure Dispatch.Outcome)}
      {failure : Failure}
      (awaiting : world.phase = .awaiting records outcomes [])
      (tallied : tally outcomes = .error failure) :
      Move handler world [] { world with phase := .ending failure }
  | commit {records : List Rec} {outcomes : List (Except Failure Dispatch.Outcome)}
      {counts : Counts} {running : Running Rec}
      (awaiting : world.phase = .awaiting records outcomes [])
      (tallied : tally outcomes = .ok counts)
      (committed : Loop.commit.perform world.running = (.ok (), running)) :
      Move handler world [.called .commit, .returned counts]
        { world with running, phase := .polling }
  | failToCommit {records : List Rec} {outcomes : List (Except Failure Dispatch.Outcome)}
      {counts : Counts} {failure : Failure} {running : Running Rec}
      (awaiting : world.phase = .awaiting records outcomes [])
      (tallied : tally outcomes = .ok counts)
      (committed : Loop.commit.perform world.running = (.error failure, running)) :
      Move handler world [.called .commit, .uncommitted failure]
        { world with running, phase := .ending failure }
  /-- A step of a worker. -/
  | work {event : Pool.Event Rec Dispatch.Outcome}
      {site : Pool.Site Rec Dispatch.Outcome Service}
      (byWorker : event.byWorker = true)
      (step : Pool.Step handler.job world.site event site) :
      Move handler world [.pooled event] (world.stepped site world.phase)
  /-- The thread sees that it was told to stop. -/
  | cease
      (polling : world.phase = .polling) :
      Move handler world [] { world with phase := .ending none }
  | failToPoll {failure : Failure}
      (polling : world.phase = .polling) :
      Move handler world [] { world with phase := .ending failure }
  /-- A step of the thread while it stops the pool. -/
  | stop {failure : Option Failure} {event : Pool.Event Rec Dispatch.Outcome}
      {site : Pool.Site Rec Dispatch.Outcome Service}
      (ending : world.phase = .ending failure)
      (byStop : event.byStop = true)
      (step : Pool.Step handler.job world.site event site) :
      Move handler world [.pooled event] (world.stepped site world.phase)
  | close {failure : Option Failure}
      (ending : world.phase = .ending failure)
      (free : world.control = .free)
      (inactive : world.running.consumer.pool.active = false) :
      Move handler world [.called .close]
        { world with
          running := (Loop.close.perform world.running).2
          phase := .closed failure }

/-- A course of a run so far: what was seen of it, and where it has led to.  Besides the moves, the
thread may be interrupted while it handles a batch, and the logs may be written to at any time. -/
inductive Course
    (handler : Handler Rec)
    (first : World Rec) : List (Notice Rec) → World Rec → Prop where
  | nil : Course handler first [] first
  | snoc {trace notices : List (Notice Rec)} {world next : World Rec}
      (course : Course handler first trace world)
      (move : Move handler world notices next) :
      Course handler first (trace ++ notices) next
  | interrupt {trace : List (Notice Rec)} {world : World Rec}
      (course : Course handler first trace world)
      (busy : world.phase.isBusy = true)
      (message : String) :
      Course handler first trace { world with phase := .ending (some (.interrupt message)) }
  | log {trace : List (Notice Rec)} {world : World Rec}
      (course : Course handler first trace world)
      (poolLog log : List LogLine) : Course handler first trace (world.logging poolLog log)

/-- What happened in the pool. -/
def pooled (trace : List (Notice Rec)) : List (Pool.Event Rec Dispatch.Outcome) :=
  trace.filterMap fun notice =>
    match notice with
    | .pooled event => some event
    | .called _ | .returned _ | .uncommitted _ => none

/-- What the consumer was asked. -/
def called (trace : List (Notice Rec)) : List (ConsumerCall Rec) :=
  trace.filterMap fun notice =>
    match notice with
    | .called call => some call
    | .pooled _ | .returned _ | .uncommitted _ => none

@[simp] theorem pooled_append (front back : List (Notice Rec)) :
    pooled (front ++ back) = pooled front ++ pooled back :=
  List.filterMap_append

@[simp] theorem called_append (front back : List (Notice Rec)) :
    called (front ++ back) = called front ++ called back :=
  List.filterMap_append

@[simp] theorem called_called
    (call : ConsumerCall Rec)
    (trace : List (Notice Rec)) : called (.called call :: trace) = call :: called trace := rfl

@[simp] theorem called_nil : called ([] : List (Notice Rec)) = [] := rfl

@[simp] theorem called_returned
    (counts : Counts)
    (trace : List (Notice Rec)) : called (.returned counts :: trace) = called trace := rfl

@[simp] theorem called_uncommitted
    (failure : Failure)
    (trace : List (Notice Rec)) : called (.uncommitted failure :: trace) = called trace := rfl

@[simp] theorem called_pooled
    (event : Pool.Event Rec Dispatch.Outcome)
    (trace : List (Notice Rec)) : called (.pooled event :: trace) = called trace := rfl

@[simp] theorem pooled_nil : pooled ([] : List (Notice Rec)) = [] := rfl

@[simp] theorem pooled_called
    (call : ConsumerCall Rec)
    (trace : List (Notice Rec)) : pooled (.called call :: trace) = pooled trace := rfl

@[simp] theorem pooled_returned
    (counts : Counts)
    (trace : List (Notice Rec)) : pooled (.returned counts :: trace) = pooled trace := rfl

@[simp] theorem pooled_uncommitted
    (failure : Failure)
    (trace : List (Notice Rec)) : pooled (.uncommitted failure :: trace) = pooled trace := rfl

@[simp] theorem pooled_pooled
    (event : Pool.Event Rec Dispatch.Outcome)
    (trace : List (Notice Rec)) : pooled (.pooled event :: trace) = event :: pooled trace := rfl

@[simp] theorem pooled_map (events : List (Pool.Event Rec Dispatch.Outcome)) :
    pooled (events.map .pooled) = events := by
  unfold pooled
  rw [List.filterMap_map]
  exact List.filterMap_some

/-- What happened in the pool is no call. -/
@[simp] theorem called_map_pooled (events : List (Pool.Event Rec Dispatch.Outcome)) :
    called (events.map Notice.pooled) = [] := by
  unfold called
  rw [List.filterMap_map]
  exact List.filterMap_eq_nil_iff.mpr fun _ _ => rfl

/-! ## What calls of the consumer leave -/

/-- A consumer was asked something, which left its pool and the service. -/
structure Running.Asked
    (running : Running Rec)
    (call : ConsumerCall Rec)
    (next : Running Rec) : Prop where
  calls : next.consumer.calls = running.consumer.calls ++ [call]
  pool : next.consumer.pool = running.consumer.pool
  service : next.service = running.service

theorem asked_note
    (running : Running Rec)
    (call : ConsumerCall Rec) :
    running.Asked call ((Loop.note call).perform running).2 :=
  ⟨rfl, rfl, rfl⟩

theorem asked_close (running : Running Rec) :
    running.Asked .close (Loop.close.perform running).2 :=
  ⟨rfl, rfl, rfl⟩

theorem asked_commit (running : Running Rec) :
    running.Asked .commit (Loop.commit.perform running).2 := by
  have noted : (Loop.note .commit).perform running =
      (.ok (), ((Loop.note .commit).perform running).2) := rfl
  rw [Loop.commit, Change.perform_bind_of_ok _ noted]
  simp only [Loop.nextCommitFault, Change.perform_bind, Change.perform_get, Change.perform_set,
    Change.perform_pure]
  split <;> exact ⟨rfl, rfl, rfl⟩

end Consumer
end Fulfilment
