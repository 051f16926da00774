import Fulfilment.Proofs.Consumer.Progress
import Fulfilment.Proofs.Pool.Settling

/-!
# A run by turns

When a handler is run, the thread and the workers take turns: the workers settle after every record
that the thread gives to the pool, and when it has asked them to stop.  This is one of the courses
that a run may take, from the poll of its first batch until its pool has stopped and its consumer
is closed.
-/

namespace Fulfilment
namespace Consumer

open Fulfilment.Change

/-- The batches that polls gave. -/
def batches (calls : List (ConsumerCall Rec)) : List (List Rec) :=
  calls.filterMap fun call =>
    match call with
    | .poll records => some records
    | .commit | .close => none

@[simp] theorem batches_append (earlier later : List (ConsumerCall Rec)) :
    batches (earlier ++ later) = batches earlier ++ batches later :=
  List.filterMap_append

variable
  {handler : Handler Rec}
  {first world : World Rec}
  {trace : List (Notice Rec)}
  {running : Running Rec}
  {records left : List Rec}
  {record : Rec}
  {tickets : List Nat}

namespace Handler

/-- A consumer that was asked for a poll. -/
def polling
    (running : Running Rec)
    (records : List Rec) : Running Rec :=
  { running with consumer := { running.consumer with
    calls := running.consumer.calls ++ [.poll records] } }

/-- A record that is submitted to a ready pool is dispatched at once. -/
theorem perform_submit
    {record : Rec}
    {result : Except Failure Dispatch.Outcome}
    {after : Service}
    (ready : running.consumer.pool.IsReady)
    (dispatched : (handler.dispatch record).perform running.service = (result, after)) :
    ∃ pool log,
      (handler.submit record).perform running =
          (.ok running.consumer.pool.board.tickets.length,
            ⟨{ running.consumer with pool }, { after with log }⟩)
        ∧ pool.IsReady
        ∧ pool.board.tickets = running.consumer.pool.board.tickets ++ [.finished result] := by
  obtain ⟨submission, offered, board, submitted, ticket, settled, tickets⟩ :=
    ready.settle_submit (fun record service => (handler.dispatch record).perform service)
      (handler.key record) record running.service
  simp only [dispatched] at settled tickets
  simp only [submit, settle, perform_bind, perform_get, perform_set, perform_modify,
    perform_pure, submitted, settled, Running.afterPool, ticket]
  exact ⟨_, _, rfl, ready.withBoard _, tickets⟩

/-- The tickets of submitted records tell how dispatching them ended. -/
theorem perform_outcomes
    {earlier : List (Pool.Ticket Dispatch.Outcome)}
    {results : List (Except Failure Dispatch.Outcome)}
    (tickets : running.consumer.pool.board.tickets = earlier ++ results.map .finished) :
    ((List.range' earlier.length results.length).mapM Loop.outcome).perform running =
      (.ok results, running) := by
  induction results generalizing earlier with
  | nil => simp
  | cons result results ih =>
      have found : running.consumer.pool.ticket? earlier.length = some (.finished result) := by
        simp [Pool.ticket?, tickets]
      have told : (Loop.outcome earlier.length).perform running = (.ok result, running) := by
        simp only [Loop.outcome, perform_bind, perform_get, found, perform_pure]
      have later := @ih (earlier ++ [.finished result]) (by simp [tickets])
      rw [List.length_append, List.length_singleton] at later
      rw [List.length_cons, List.range'_succ, List.mapM_cons, perform_bind_of_ok _ told,
        perform_bind_of_ok _ later, perform_pure]

end Handler

/-- Where the thread is after a batch: it polls again, or it has left the loop with a failure. -/
def Phase.ofResult (result : Except Failure α) : Phase Rec :=
  match result with
  | .ok _ => .polling
  | .error failure => .ending (some failure)

/-- A run that ends with a failure or with none was asked for batches in order, and for all of them
if it ends with none. -/
structure HasPolled
    (polls : List (Batch Rec))
    (ending failure : Option Failure)
    (calls : List (ConsumerCall Rec)) : Prop where
  isPrefix : batches calls <+: polls.map List.flatten
  whole : failure = none → ending = none ∧ batches calls = polls.map List.flatten

/-- How a run ends. -/
def resultOf (failure : Option Failure) : Except Failure Unit :=
  match failure with
  | some failure => .error failure
  | none => .ok ()

/-- Work that polls some batches goes on with a course: the thread then polls again, and the counts
that the work gives were seen, or it has left the loop with the failure of the work. -/
structure GoesOn
    (handler : Handler Rec)
    (first : World Rec)
    (trace : List (Notice Rec))
    (polled : List (List Rec))
    (result : Except Failure Counts)
    (after : Running Rec) : Prop where
  ready : after.consumer.pool.IsReady
  course : ∃ more, Course handler first (trace ++ more) ⟨after, .free, .ofResult result⟩
    ∧ batches (called more) = polled ∧ ∀ counts, result = .ok counts → .returned counts ∈ more

namespace Course

/-- A schedule of the workers, or of the stopping of the pool, goes on with a course. -/
theorem schedule
    {events : List (Pool.Event Rec Dispatch.Outcome)}
    {site : Pool.Site Rec Dispatch.Outcome Service}
    (course : Course handler first trace world)
    (schedule : Pool.Schedule handler.job world.site events site)
    (moves : ∀ event ∈ events, event.byWorker = true
      ∨ event.byStop = true ∧ ∃ failure, world.phase = .ending failure) :
    Course handler first (trace ++ events.map .pooled) (world.stepped site world.phase) := by
  induction schedule with
  | nil =>
      rw [List.map_nil, List.append_nil]
      exact course
  | @snoc events site next event schedule step ih =>
      have reached := ih fun other member => moves other (List.mem_append_left _ member)
      rw [List.map_append, ← List.append_assoc]
      rcases moves event (by simp) with byWorker | ⟨byStop, failure, ending⟩
      · exact reached.snoc (.work byWorker step)
      · exact reached.snoc (.stop ending byStop step)

/-- A record is given to a ready pool, whose workers then handle it. -/
theorem submit
    (course : Course handler first trace ⟨running, .free, .giving records tickets (record :: left)⟩)
    (ready : running.consumer.pool.IsReady) :
    ∃ more after result,
      (handler.submit record).perform running =
          (.ok running.consumer.pool.board.tickets.length, after)
        ∧ called more = []
        ∧ after.consumer.pool.IsReady
        ∧ after.consumer.pool.board.tickets =
          running.consumer.pool.board.tickets ++ [.finished result]
        ∧ Course handler first (trace ++ more)
          ⟨after, .free,
            .giving records (tickets ++ [running.consumer.pool.board.tickets.length]) left⟩ := by
  -- What becomes of the pool is known of the change; that its workers make steps, of the schedule.
  obtain ⟨after, performed, still, ended⟩ : ∃ after, (handler.submit record).perform running =
        (.ok running.consumer.pool.board.tickets.length, after)
      ∧ after.consumer.pool.IsReady
      ∧ after.consumer.pool.board.tickets = running.consumer.pool.board.tickets
        ++ [.finished (handler.job record running.service).1] := by
    obtain ⟨pool, log, performed, still, ended⟩ :=
      Handler.perform_submit ready (rfl : (handler.dispatch record).perform running.service = _)
    exact ⟨_, performed, still, ended⟩
  obtain ⟨submission, offered, submitted, isTicket, entered, events, schedule, byWorker⟩ :=
    @Pool.IsReady.leads_submit _ _ _ handler.job _ ready (handler.key record) record running.service
  have given := course.snoc (.give rfl (.submit rfl submitted entered))
  have settled := (given.schedule schedule fun event member => .inl (byWorker event member)).log []
    ((Pool.settle (fun _ => true) handler.job offered running.service).2.log
      ++ (Pool.settle (fun _ => true) handler.job offered running.service).1.board.log)
  have isAfter : (handler.submit record).perform running = (.ok submission.ticket,
      ({ running with consumer := { running.consumer with pool := offered } } :
        Running Rec).afterPool (Pool.settle (fun _ => true) handler.job offered running.service).1
        (Pool.settle (fun _ => true) handler.job offered running.service).2) := by
    unfold Handler.submit Handler.settle
    simp only [perform_bind, perform_get, submitted, perform_set, perform_modify, perform_pure]
    rfl
  obtain ⟨-, rfl⟩ := Prod.mk.inj (isAfter.symm.trans performed)
  refine ⟨.pooled (.accepted (handler.item submission.ticket record)) :: events.map .pooled, _, _,
    performed, called_map_pooled events, still, ended, ?_⟩
  rw [List.append_assoc] at settled
  rw [← isTicket]
  exact settled

/-- Records are given to a ready pool one after the other. -/
theorem submitAll
    {given : List Rec}
    (course : Course handler first trace ⟨running, .free, .giving records tickets (given ++ left)⟩)
    (ready : running.consumer.pool.IsReady) :
    ∃ more after, ∃ results : List (Except Failure Dispatch.Outcome),
      (given.mapM handler.submit).perform running =
          (.ok (List.range' running.consumer.pool.board.tickets.length results.length), after)
        ∧ called more = []
        ∧ after.consumer.pool.IsReady
        ∧ after.consumer.pool.board.tickets =
          running.consumer.pool.board.tickets ++ results.map .finished
        ∧ Course handler first (trace ++ more)
          ⟨after, .free,
            .giving records (tickets
              ++ List.range' running.consumer.pool.board.tickets.length results.length) left⟩ := by
  induction given generalizing running trace tickets with
  | nil =>
      refine ⟨[], running, [], rfl, rfl, ready, by simp, ?_⟩
      simpa using course
  | cons record given ih =>
      obtain ⟨events, between, result, performed, quiet, still, ended, goesOn⟩ := course.submit ready
      obtain ⟨more, after, results, later, silent, last, told, done⟩ := ih goesOn still
      refine ⟨events ++ more, after, result :: results, ?_, by simp [quiet, silent], last, ?_, ?_⟩
      · rw [List.mapM_cons, perform_bind_of_ok _ performed, perform_bind_of_ok _ later,
          perform_pure]
        simp [ended, List.range'_succ]
      · rw [told, ended, List.append_assoc, List.map_cons, List.singleton_append]
      · simpa [ended, List.range'_succ] using done

/-- Tickets all of which tell how their records ended are waited for. -/
theorem collectAll
    {outcomes results : List (Except Failure Dispatch.Outcome)}
    {earlier : List (Pool.Ticket Dispatch.Outcome)}
    (course : Course handler first trace
      ⟨running, .free, .awaiting records outcomes (List.range' earlier.length results.length)⟩)
    (ended : running.consumer.pool.board.tickets = earlier ++ results.map .finished) :
    Course handler first trace ⟨running, .free, .awaiting records (outcomes ++ results) []⟩ := by
  induction results generalizing outcomes earlier with
  | nil => simpa using course
  | cons result results ih =>
      rw [List.length_cons, List.range'_succ] at course
      have isResult : running.consumer.pool.ticket? earlier.length = some (.finished result) := by
        simp [Pool.ticket?, ended]
      have collected := course.snoc (.collect rfl isResult)
      rw [List.append_nil] at collected
      have further := @ih (outcomes ++ [result]) (earlier ++ [.finished result])
        (by simpa using collected) (by simp [ended])
      simpa using further

/-- A line may be told at any time. -/
theorem tell
    (course : Course handler first trace world)
    (level : LogLevel)
    (text : String) :
    Course handler first trace
      { world with running := ((Loop.tell level text).perform world.running).2 } :=
  course.log world.running.consumer.pool.board.log _

/-- When all records of a batch have ended, the thread commits it and polls again, or it leaves the
loop with a failure. -/
theorem conclude
    {outcomes : List (Except Failure Dispatch.Outcome)}
    (course : Course handler first trace ⟨running, .free, .awaiting records outcomes []⟩)
    (ready : running.consumer.pool.IsReady)
    (text : Counts → String) :
    ∃ result after,
      (do
          let counts ← resume (tally outcomes)
          Loop.commit
          Loop.tell .info (text counts)
          return counts : Loop Rec Counts).perform running = (result, after)
        ∧ GoesOn handler first trace [] result after := by
  rw [perform_bind, perform_resume]
  cases tallied : tally outcomes with
  | error failure =>
      exact ⟨.error failure, running, rfl, ready, _, course.snoc (.fail rfl tallied), rfl,
        fun counts impossible => nomatch impossible⟩
  | ok counts =>
      cases committed : Loop.commit.perform running with
      | mk result after =>
          have asked := asked_commit running
          rw [committed] at asked
          have still : after.consumer.pool.IsReady := by
            rw [asked.pool]
            exact ready
          cases result with
          | error failure =>
              have failed := course.snoc (.failToCommit rfl tallied committed)
              refine ⟨.error failure, after, ?_, still, _, failed, rfl,
                fun counts impossible => nomatch impossible⟩
              exact perform_bind_of_error _ committed
          | ok value =>
              have done := (course.snoc (.commit rfl tallied committed)).tell .info (text counts)
              refine ⟨.ok counts, ((Loop.tell .info (text counts)).perform after).2, ?_, still, _,
                done, rfl, fun given same => ?_⟩
              · change (Loop.commit >>= _).perform running = _
                rw [perform_bind_of_ok _ committed]
                rfl
              · cases same
                exact List.mem_cons_of_mem _ (List.mem_singleton.mpr rfl)

/-- A batch is polled and handled: the thread polls again, or leaves the loop with a failure. -/
theorem pollBatch
    (course : Course handler first trace ⟨running, .free, .polling⟩)
    (ready : running.consumer.pool.IsReady)
    (batch : Batch Rec) :
    ∃ result after, (handler.pollBatch batch).perform running = (result, after)
      ∧ GoesOn handler first trace [batch.flatten] result after := by
  have noted : (Loop.note (.poll batch.flatten)).perform running =
      (.ok (), Handler.polling running batch.flatten) := rfl
  rw [Handler.pollBatch, perform_bind_of_ok _ noted]
  by_cases none : batch.flatten = []
  · have polled := course.snoc (.pollNothing rfl none)
    rw [none]
    refine ⟨.ok {}, Handler.polling running [], rfl, ready, _, polled, rfl, fun counts same => ?_⟩
    cases same
    exact List.mem_cons_of_mem _ (List.mem_singleton.mpr rfl)
  · have polled : Course handler first (trace ++ [.called (.poll batch.flatten)])
        ⟨Handler.polling running batch.flatten, .free,
          .giving batch.flatten [] (batch.flatten ++ [])⟩ := by
      rw [List.append_nil]
      exact course.snoc (.poll rfl none)
    obtain ⟨events, between, results, performed, quiet, still, ended, given⟩ :=
      polled.submitAll ready
    have awaiting := given.snoc (.wait rfl)
    rw [List.append_nil, List.nil_append] at awaiting
    obtain ⟨result, after, concluded, last, more, done, calm, returned⟩ :=
      (awaiting.collectAll ended).conclude still fun counts =>
        let records := batch.flatten
        s!"Committed batch of {records.length} record(s): {counts.acknowledged} acknowledged, "
          ++ s!"{counts.deadLettered} dead-lettered"
    have outcomes := Handler.perform_outcomes ended
    refine ⟨result, after, ?_, last, .called (.poll batch.flatten) :: events ++ more, ?_, ?_,
      fun counts same => List.mem_append_right _ (returned counts same)⟩
    · rw [if_neg (by simpa using none), perform_bind_of_ok _ performed,
        perform_bind_of_ok _ outcomes]
      exact concluded
    · simpa using done
    · have only : called (.called (.poll batch.flatten) :: events ++ more) =
          .poll batch.flatten :: called more := by simp [quiet]
      rw [only]
      exact congrArg (batch.flatten :: ·) calm

/-- The batches are polled one after the other, until all were polled or the loop is left. -/
theorem pollAll
    (course : Course handler first trace ⟨running, .free, .polling⟩)
    (ready : running.consumer.pool.IsReady)
    (polls : List (Batch Rec))
    (ending : Option Failure) :
    ∃ more after failure,
      (handler.pollAll polls ending).perform running = (resultOf failure, after)
        ∧ HasPolled polls ending failure (called more)
        ∧ after.consumer.pool.IsReady
        ∧ Course handler first (trace ++ more) ⟨after, .free, .ofResult (resultOf failure)⟩ := by
  induction polls generalizing running trace with
  | nil =>
      have polled (failure : Option Failure) (same : ending = failure) :
          HasPolled [] ending failure (called ([] : List (Notice Rec))) :=
        ⟨List.nil_prefix, fun none => ⟨same.trans none, rfl⟩⟩
      cases ending with
      | none =>
          refine ⟨[], running, none, rfl, polled none rfl, ready, ?_⟩
          rw [List.append_nil]
          exact course
      | some failure =>
          exact ⟨[], running, failure, rfl, polled failure rfl, ready,
            course.snoc (.failToPoll rfl)⟩
  | cons batch polls ih =>
      obtain ⟨result, between, performed, still, events, reached, polled, -⟩ :=
        course.pollBatch ready batch
      cases result with
      | error failure =>
          refine ⟨events, between, some failure, perform_bind_of_error _ performed,
            ⟨?_, fun impossible => nomatch impossible⟩, still, reached⟩
          rw [polled]
          exact List.prefix_append [batch.flatten] _
      | ok counts =>
          obtain ⟨more, after, failure, later, ⟨isPrefix, whole⟩, last, done⟩ := ih reached still
          have appended : batches (called (events ++ more)) =
              batch.flatten :: batches (called more) := by
            rw [called_append, batches_append, polled, List.singleton_append]
          refine ⟨events ++ more, after, failure, (perform_bind_of_ok _ performed).trans later,
            ⟨?_, fun none => ?_⟩, last, ?_⟩
          · rw [appended]
            exact (List.prefix_append_right_inj [batch.flatten]).mpr isPrefix
          · obtain ⟨isNone, all⟩ := whole none
            exact ⟨isNone, by rw [appended, all]; rfl⟩
          · rw [← List.append_assoc]
            exact done

/-- A consumer that is ready stops its pool. -/
theorem stopPool
    {failure : Option Failure}
    (course : Course handler first trace ⟨running, .free, .ending failure⟩)
    (ready : running.consumer.pool.IsReady) :
    ∃ (events : List (Pool.Event Rec Dispatch.Outcome)) (after : Running Rec),
      handler.stopPool.perform running = (.ok (), after)
      ∧ after.consumer.pool.active = false
      ∧ Course handler first (trace ++ events.map .pooled) ⟨after, .free, .ending failure⟩ := by
  obtain ⟨inactive, events, schedule, allowed⟩ :=
    @Pool.IsReady.leads_stop _ _ _ handler.job _ ready running.service
  have halted := course.schedule schedule fun event member =>
    (Bool.or_eq_true_iff.mp (allowed event member)).imp id fun byStop => ⟨byStop, failure, rfl⟩
  have stopped := halted.log []
    ((running.consumer.pool.stop (fun _ => true) handler.job running.service).2.log
      ++ (running.consumer.pool.stop (fun _ => true) handler.job running.service).1.board.log)
  exact ⟨events, _, rfl, inactive, stopped⟩

end Course

/-- A running consumer that has told that it listens. -/
def Running.listening (running : Running Rec) : Running Rec :=
  ((Loop.tell .info
    s!"Listening for messages on topic(s): {running.consumer.subscription}").perform running).2

theorem course_listening
    (handler : Handler Rec)
    (running : Running Rec) :
    Course handler ⟨running, .free, .polling⟩ [] ⟨running.listening, .free, .polling⟩ :=
  Course.nil.tell .info _

/-- After the work of a run, however it ends, the pool is stopped and the consumer closed. -/
theorem course_around
    {work : Loop Rec Unit}
    {between : Running Rec}
    {failure : Option Failure}
    (performed : work.perform running.listening = (resultOf failure, between))
    (ready : between.consumer.pool.IsReady)
    (worked : Course handler ⟨running, .free, .polling⟩ trace
      ⟨between, .free, .ofResult (resultOf failure)⟩) :
    ∃ (events : List (Pool.Event Rec Dispatch.Outcome)) (after : Running Rec),
      (handler.around work).perform running = (resultOf failure, after)
        ∧ Course handler ⟨running, .free, .polling⟩
          (trace ++ events.map .pooled ++ [.called .close]) ⟨after, .free, .closed failure⟩ := by
  have left : Course handler ⟨running, .free, .polling⟩ trace
      ⟨between, .free, .ending failure⟩ := by
    cases failure with
    | some failure => exact worked
    | none =>
        have ceased := worked.snoc (.cease rfl)
        rwa [List.append_nil] at ceased
  obtain ⟨events, stopped, halted, inactive, stopping⟩ := left.stopPool ready
  have closed := (stopping.snoc (.close rfl rfl inactive)).tell .info
    "Order completed consumer stopped"
  refine ⟨events, _, ?_, closed⟩
  have told : (Loop.tell .info
      s!"Listening for messages on topic(s): {running.consumer.subscription}").perform running =
        (.ok (), running.listening) := rfl
  unfold Handler.around
  rw [perform_bind_of_ok _ (perform_get running), perform_bind_of_ok _ told, perform_bind,
    perform_attempt]
  simp only [performed]
  rw [perform_bind_of_ok _ halted]
  simp only [perform_bind, Loop.close, Loop.note, perform_modify, Loop.tell, Loop.inService,
    perform_within, Action.tell, perform_resume]

/-- To run a handler on a consumer whose pool is ready is one of the courses that its run may
take. -/
theorem course_run
    (ready : running.consumer.pool.IsReady)
    (handler : Handler Rec)
    (polls : List (Batch Rec))
    (ending : Option Failure) :
    ∃ trace after failure,
      Course handler ⟨running, .free, .polling⟩ trace ⟨after, .free, .closed failure⟩
        ∧ (handler.run polls ending).perform running = (resultOf failure, after)
        ∧ HasPolled polls ending failure (called trace) := by
  obtain ⟨more, between, failure, performed, hasPolled, still, worked⟩ :=
    (course_listening handler running).pollAll ready polls ending
  obtain ⟨events, after, ended, closed⟩ := course_around performed still worked
  refine ⟨_, after, failure, closed, ended, ?_⟩
  have silent : batches (called ([] ++ more ++ events.map Notice.pooled ++ [.called .close])) =
      batches (called more) := by
    rw [called_append, called_append, called_map_pooled, List.nil_append, List.append_nil,
      batches_append]
    exact List.append_nil _
  exact ⟨silent ▸ hasPolled.isPrefix, fun none => silent ▸ hasPolled.whole none⟩

end Consumer
end Fulfilment
