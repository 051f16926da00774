import Fulfilment.Proofs.Consumer.Turns

/-!
# Runs of the program

A run of the consumer of orders begins with nothing connected.  It polls batches until the polls are
used up, one of them fails, or it is interrupted, and it is one of the courses that its thread and
its workers may take.  Runs follow one another over the same tables and the same broker.
-/

namespace Fulfilment
namespace Consumer

open Fulfilment.Change

/-- Poll a batch and be interrupted when so many of its records were given to the pool. -/
def Handler.pollInterrupted
    (handler : Handler Rec)
    (batch : Batch Rec)
    (submitted : Nat)
    (message : String) : Loop Rec Unit := do
  Loop.note (.poll batch.flatten)
  let _ ← (batch.flatten.take submitted).mapM handler.submit
  fail (.interrupt message)

/-- How the polls of a run end. -/
inductive Ending where
  /-- There is no further poll, or it fails. -/
  | polled (failure : Option Failure)
  /-- The run is interrupted after so many records of a further poll were given to the pool. -/
  | interrupted (batch : Batch Record) (submitted : Nat) (message : String)

/-- One run of the consumer: retries after conflicts, the time, the faults to come, what the
consumer is subscribed to, the workers of its pool, the polls, and how they end. -/
structure Execution where
  retries : Int
  clock : Moment
  connectFaults : List (Option Failure) := []
  sendFaults : List (Option SendFault) := []
  commitFaults : List (Option Failure) := []
  commitFailure : Option Failure := none
  subscription : String
  poolName : String := Pool.defaultName
  workerCount : Nat
  staffed : 0 < workerCount
  capacity : Int
  polls : List (Batch Record)
  ending : Ending

namespace Execution

/-- The service when a run begins: nothing is connected, and the faults are those of the run. -/
def begin
    (execution : Execution)
    (service : Service) : Service :=
  { service with
    clock := execution.clock
    broker := { service.broker with
      connectFaults := execution.connectFaults
      sendFaults := execution.sendFaults }
    events := { service.events with connected := false }
    deadLetters := { service.deadLetters with connected := false } }

/-- The consumer when a run begins. -/
def subscriber (execution : Execution) : Subscriber Record where
  subscription := execution.subscription
  commitFaults := execution.commitFaults
  commitFailure := execution.commitFailure
  pool := Pool.start {
    name := execution.poolName
    workerCount := execution.workerCount
    capacity := execution.capacity }

/-- How a run treats its records. -/
def handler (execution : Execution) : Handler Record :=
  .ofService execution.retries

/-- The run itself. -/
def loop (execution : Execution) : Loop Record Unit :=
  match execution.ending with
  | .polled failure => execution.handler.run execution.polls failure
  | .interrupted batch submitted message =>
      execution.handler.around do
        execution.handler.pollAll execution.polls none
        execution.handler.pollInterrupted batch submitted message

/-- What the consumer of a run was asked, and the service after the run. -/
def conduct
    (execution : Execution)
    (service : Service) : List (ConsumerCall Record) × Service :=
  let running := (execution.loop.perform ⟨execution.subscriber, execution.begin service⟩).2
  (running.consumer.calls, running.service)

end Execution

/-- Run the consumer again and again: what was asked in each run, and the service at last. -/
def conductAll : List Execution → Service → List (List (ConsumerCall Record)) × Service
  | [], service => ([], service)
  | execution :: executions, service =>
      let (calls, next) := execution.conduct service
      let (later, last) := conductAll executions next
      (calls :: later, last)

/-- A run that is interrupted amid a batch leaves the loop with the interrupt. -/
theorem Course.pollInterrupted
    {handler : Handler Rec}
    {first : World Rec}
    {trace : List (Notice Rec)}
    {running : Running Rec}
    (course : Course handler first trace ⟨running, .free, .polling⟩)
    (ready : running.consumer.pool.IsReady)
    (batch : Batch Rec)
    (submitted : Nat)
    (message : String) :
    ∃ more after,
      (handler.pollInterrupted batch submitted message).perform running =
          (resultOf (some (.interrupt message)), after)
        ∧ after.consumer.pool.IsReady
        ∧ Course handler first (trace ++ more)
          ⟨after, .free, .ofResult (resultOf (some (.interrupt message)))⟩ := by
  have noted : (Loop.note (.poll batch.flatten)).perform running =
      (.ok (), Handler.polling running batch.flatten) := rfl
  rw [Handler.pollInterrupted, perform_bind_of_ok _ noted]
  by_cases none : batch.flatten = []
  · have polled := course.snoc (.pollNothing rfl none)
    have failed := polled.snoc (@Move.failToPoll _ _ _ (.interrupt message) rfl)
    rw [List.append_nil] at failed
    rw [none, List.take_nil]
    exact ⟨_, _, rfl, ready, failed⟩
  · have polled : Course handler first (trace ++ [.called (.poll batch.flatten)])
        ⟨Handler.polling running batch.flatten, .free,
          .giving batch.flatten []
            (batch.flatten.take submitted ++ batch.flatten.drop submitted)⟩ := by
      rw [List.take_append_drop]
      exact course.snoc (.poll rfl none)
    obtain ⟨events, between, results, performed, quiet, still, ended, given⟩ :=
      polled.submitAll ready
    rw [perform_bind_of_ok _ performed]
    have interrupted := given.interrupt rfl message
    rw [List.append_assoc] at interrupted
    exact ⟨_, between, rfl, still, interrupted⟩

/-- A run polls batches in a loop, and is one of the courses until it leaves the loop. -/
theorem Execution.exists_work
    (execution : Execution)
    {running : Running Record}
    (ready : running.consumer.pool.IsReady) :
    ∃ work trace between failure, execution.loop = execution.handler.around work
      ∧ work.perform running.listening = (resultOf failure, between)
      ∧ between.consumer.pool.IsReady
      ∧ Course execution.handler ⟨running, .free, .polling⟩ trace
        ⟨between, .free, .ofResult (resultOf failure)⟩ := by
  have listens := course_listening execution.handler running
  unfold loop
  cases execution.ending with
  | polled failure =>
      obtain ⟨trace, between, last, performed, -, still, worked⟩ :=
        listens.pollAll ready execution.polls failure
      exact ⟨_, _, between, last, rfl, performed, still, worked⟩
  | interrupted batch submitted message =>
      obtain ⟨trace, between, failure, performed, -, still, worked⟩ :=
        listens.pollAll ready execution.polls none
      cases failure with
      | some failure =>
          exact ⟨_, _, between, failure, rfl, perform_bind_of_error _ performed, still, worked⟩
      | none =>
          obtain ⟨more, after, interrupted, last, left⟩ :=
            worked.pollInterrupted still batch submitted message
          exact ⟨_, _, after, _, rfl, (perform_bind_of_ok _ performed).trans interrupted, last, left⟩

/-- A run of the program is one of the courses that its thread and its workers may take. -/
theorem Execution.course
    (execution : Execution)
    (service : Service) :
    ∃ trace after failure,
      Course execution.handler
          ⟨⟨execution.subscriber, execution.begin service⟩, .free, .polling⟩ trace
          ⟨after, .free, .closed failure⟩
        ∧ execution.conduct service = (after.consumer.calls, after.service) := by
  obtain ⟨work, trace, between, failure, isLoop, performed, still, worked⟩ :=
    @execution.exists_work ⟨execution.subscriber, execution.begin service⟩
      (Pool.isReady_start execution.staffed execution.capacity)
  obtain ⟨events, after, ended, closed⟩ := course_around performed still worked
  refine ⟨_, after, failure, closed, ?_⟩
  rw [conduct, isLoop, ended]

end Consumer
end Fulfilment
