import Fulfilment.Dispatch
import Fulfilment.Proofs.Publish.Obstacle
import Fulfilment.Proofs.Workflow.Surroundings

/-!
# What becomes of a record

A record is acknowledged, or its copy is, or it stays with the caller.  Which of these it is depends
on two things only: how the workflow ended, and what then stands in the way of a dead letter.
-/

namespace Fulfilment
namespace Dispatch

open Fulfilment.Action Fulfilment.Change Fulfilment.Service

/-- How dispatching ends and which messages it adds to those of the workflow, given how the workflow
ended and what stands in the way of a dead letter. -/
inductive Disposed
    (topic : String)
    (record : Record)
    (obstacle : Option Obstacle) :
    Except Failure Workflow.Result → Except Failure Outcome → List Message → Prop where
  /-- The workflow gave a result. -/
  | acknowledged (done : Workflow.Result) :
      Disposed topic record obstacle (.ok done) (.ok .acknowledged) []
  /-- The workflow failed and the broker has the copy for good. -/
  | deadLettered {failure : Failure}
      (caught : failure.isInterrupt = false)
      (free : obstacle = none) :
      Disposed topic record obstacle (.error failure) (.ok .deadLettered)
        [{ DeadLetter.letter topic record failure.description with acknowledged := true }]
  /-- The workflow failed and the copy met an obstacle. -/
  | lost {failure : Failure} {met : Obstacle}
      (caught : failure.isInterrupt = false)
      (barred : obstacle = some met) :
      Disposed topic record obstacle (.error failure)
        (.error (DeadLetter.failure topic met.failure))
        (met.leaves (DeadLetter.letter topic record failure.description))
  /-- The workflow was interrupted. -/
  | interrupted {failure : Failure}
      (interrupt : failure.isInterrupt = true) :
      Disposed topic record obstacle (.error failure) (.error failure) []

/-- Rejecting a record disposes of it by what stands in the way of its copy. -/
theorem disposed_reject
    {record : Record}
    {failure : Failure}
    {service after : Service}
    {result : Except Failure Outcome}
    (caught : failure.isInterrupt = false)
    (performed : (reject record failure).perform service = (result, after)) :
    ∃ letters, Disposed service.deadLetters.topic record (service.obstacle? .deadLetters)
        (.error failure) result letters
      ∧ after.broker.sent = service.broker.sent ++ letters
      ∧ Uses .deadLetters service after := by
  have told : ∃ log, (tell .dispatch .error
      s!"Processing failed for {record.description}, dead-lettering: {failure.message}").perform
      service = (.ok (), { service with log }) := ⟨_, rfl⟩
  obtain ⟨log, told⟩ := told
  rw [reject, perform_bind_of_ok _ told] at performed
  cases copying : (DeadLetter.send record failure.description).perform { service with log } with
  | mk copied between =>
      obtain ⟨uses, ending, letters, sent, settled, rfl⟩ := DeadLetter.perform_send copying
      have used := (Uses.log .deadLetters service log).trans uses
      have facing : ({ service with log } : Service).obstacle? .deadLetters =
          service.obstacle? .deadLetters := rfl
      rw [facing] at settled
      cases obstacle : service.obstacle? .deadLetters with
      | none =>
          rw [obstacle] at settled
          cases settled
          rw [perform_bind_of_ok _ copying] at performed
          cases performed
          exact ⟨_, .deadLettered caught rfl, sent, used.trans (.log .deadLetters between _)⟩
      | some met =>
          rw [obstacle] at settled
          cases settled
          rw [perform_bind_of_error _ copying] at performed
          cases performed
          exact ⟨_, .lost caught rfl, sent, used⟩

/-- Dispatching disposes of a record by how the workflow ends. -/
theorem disposed_dispatch
    {retries : Int}
    {record : Record}
    {service between after : Service}
    {ended : Except Failure Workflow.Result}
    {result : Except Failure Outcome}
    (handled : (Workflow.handle retries record.value).perform service = (ended, between))
    (performed : (dispatch retries record).perform service = (result, after)) :
    ∃ letters, Disposed between.deadLetters.topic record (between.obstacle? .deadLetters)
        ended result letters
      ∧ after.broker.sent = between.broker.sent ++ letters
      ∧ Uses .deadLetters between after := by
  simp only [dispatch, perform_bind, perform_attempt, handled] at performed
  cases ended with
  | ok done =>
      cases performed
      exact ⟨[], .acknowledged done, by simp, .log .deadLetters between _⟩
  | error failure =>
      cases interrupt : failure.isInterrupt with
      | true =>
          simp only [interrupt, if_true, perform_fail] at performed
          cases performed
          exact ⟨[], .interrupted interrupt, by simp, .refl .deadLetters between⟩
      | false =>
          simp only [interrupt, Bool.false_eq_true, if_false] at performed
          exact disposed_reject interrupt performed

/-- The three ends of dispatching a record, each with its cause, the messages that were sent and
what is left of the tables.  The workflow has sent some events; the letters are what dispatching
sends to the topic of the dead letters. -/
structure Trichotomy
    (record : Record)
    (before : Service)
    (ended : Except Failure Workflow.Result)
    (between : Service)
    (result : Except Failure Outcome)
    (after : Service)
    (events letters : List Message) : Prop where
  /-- A record is acknowledged exactly if the workflow gave a result. -/
  acknowledged_iff : result = .ok .acknowledged ↔ ∃ done, ended = .ok done
  /-- A record is dead-lettered exactly if the workflow failed, was not interrupted, and nothing
  stands in the way of the copy. -/
  deadLettered_iff : result = .ok .deadLettered ↔
    ∃ failure, ended = .error failure ∧ failure.isInterrupt = false
      ∧ between.obstacle? .deadLetters = none
  /-- Dispatching fails exactly if the workflow was interrupted, or if it failed and the copy met
  an obstacle.  An error of the broker is then told as one of the dead letter. -/
  failed_iff : ∀ failure, result = .error failure ↔
    (ended = .error failure ∧ failure.isInterrupt = true)
      ∨ ∃ cause obstacle, ended = .error cause ∧ cause.isInterrupt = false
        ∧ between.obstacle? .deadLetters = some obstacle
        ∧ match obstacle.failure with
          | .broker error =>
              failure = .service (.deadLetter before.deadLetters.topic error.message)
          | other => failure = other
  /-- What was sent are the workflow's events and then the letters. -/
  sent : between.broker.sent = before.broker.sent ++ events
    ∧ after.broker.sent = between.broker.sent ++ letters
  /-- The workflow sends to the topic of the events only. -/
  toEvents : ∀ message ∈ events, message.topic = before.events.topic
  /-- Dispatching sends to the topic of the dead letters only. -/
  toDeadLetters : ∀ message ∈ letters, message.topic = before.deadLetters.topic
  /-- If these topics differ, the letters are all that the latter gains. -/
  gained : before.events.topic ≠ before.deadLetters.topic →
    after.broker.sent.filter (fun message => message.topic = before.deadLetters.topic) =
      before.broker.sent.filter (fun message => message.topic = before.deadLetters.topic)
        ++ letters
  /-- An acknowledged record has no dead letter. -/
  silent : result = .ok .acknowledged → letters = []
  /-- A dead-lettered record has exactly one copy, with its value as it is and the reason in
  front, and the broker has it for good. -/
  copied : result = .ok .deadLettered →
    ∃ failure letter, ended = .error failure ∧ letters = [letter]
      ∧ letter.acknowledged = true
      ∧ letter.value = record.value
      ∧ letter.headers.head? =
        some ("dlq_reason", some (Text.encode s!"{failure.kind}: {failure.message}"))
      ∧ letter.headers = DeadLetter.headers record failure.description
  /-- A record that stays with the caller was copied at most once, and the broker has no copy for
  good. -/
  uncopied : ∀ failure, result = .error failure →
    letters.length ≤ 1 ∧ ∀ message ∈ letters, message.acknowledged = false
  /-- An interrupted record has no dead letter. -/
  uncalled : ∀ failure, ended = .error failure → failure.isInterrupt = true → letters = []
  /-- Unless a record is acknowledged, the tables are as they were. -/
  kept : result ≠ .ok .acknowledged → after.store.committed = before.store.committed

/-- Messages to another topic add nothing to a topic, and messages to it are added. -/
theorem filter_topic_append
    {topic other : String}
    {earlier events letters : List Message}
    (differs : other ≠ topic)
    (elsewhere : ∀ message ∈ events, message.topic = other)
    (here : ∀ message ∈ letters, message.topic = topic) :
    (earlier ++ events ++ letters).filter (fun message => message.topic = topic) =
      earlier.filter (fun message => message.topic = topic) ++ letters := by
  have none : events.filter (fun message => message.topic = topic) = [] :=
    List.filter_eq_nil_iff.mpr fun message member => by simp [elsewhere message member, differs]
  have all : letters.filter (fun message => message.topic = topic) = letters :=
    List.filter_eq_self.mpr fun message member => by simp [here message member]
  rw [List.filter_append, List.filter_append, none, all, List.append_nil]

/-- The failure of a copy is told by what stood in its way. -/
theorem eq_failure_iff
    {topic : String}
    {cause failure : Failure} :
    failure = DeadLetter.failure topic cause ↔
      match cause with
      | .broker error => failure = .service (.deadLetter topic error.message)
      | other => failure = other := by
  cases cause <;> rfl

namespace Disposed

variable
  {topic : String}
  {record : Record}
  {obstacle : Option Obstacle}
  {ended : Except Failure Workflow.Result}
  {result : Except Failure Outcome}
  {letters : List Message}

theorem topic_eq
    (disposed : Disposed topic record obstacle ended result letters) :
    ∀ message ∈ letters, message.topic = topic := by
  cases disposed with
  | acknowledged _ => simp
  | deadLettered _ _ => simp [DeadLetter.letter]
  | interrupted _ => simp
  | lost _ _ =>
      intro message member
      rw [Obstacle.unacknowledged_of_mem_leaves member]
      rfl

theorem acknowledged_iff
    (disposed : Disposed topic record obstacle ended result letters) :
    result = .ok .acknowledged ↔ ∃ done, ended = .ok done := by
  cases disposed with
  | acknowledged done => simp
  | deadLettered caught free => simp
  | lost caught barred => simp
  | interrupted interrupt => simp

theorem deadLettered_iff
    (disposed : Disposed topic record obstacle ended result letters) :
    result = .ok .deadLettered ↔
      ∃ failure, ended = .error failure ∧ failure.isInterrupt = false ∧ obstacle = none := by
  cases disposed with
  | acknowledged done => simp
  | deadLettered caught free => simp [caught, free]
  | lost caught barred => simp [barred]
  | interrupted interrupt => simp [interrupt]

theorem failed_iff
    (disposed : Disposed topic record obstacle ended result letters)
    (failure : Failure) :
    result = .error failure ↔
      (ended = .error failure ∧ failure.isInterrupt = true)
        ∨ ∃ cause met, ended = .error cause ∧ cause.isInterrupt = false ∧ obstacle = some met
          ∧ match met.failure with
            | .broker error => failure = .service (.deadLetter topic error.message)
            | other => failure = other := by
  cases disposed with
  | acknowledged done => simp
  | @deadLettered cause caught free =>
      have quiet (same : cause = failure) : failure.isInterrupt = false := same ▸ caught
      simpa [free] using quiet
  | @lost cause met caught barred =>
      rw [Except.error.injEq, eq_comm (b := failure), eq_failure_iff]
      constructor
      · exact fun told => .inr ⟨cause, met, rfl, caught, barred, told⟩
      · rintro (⟨failed, interrupt⟩ | ⟨other, found, failed, -, same, told⟩)
        · cases failed
          cases caught.symm.trans interrupt
        · cases barred.symm.trans same
          exact told
  | @interrupted other interrupt =>
      constructor
      · rintro ⟨⟩
        exact .inl ⟨rfl, interrupt⟩
      · rintro (⟨failed, -⟩ | ⟨cause, -, failed, caught, -⟩)
        · cases failed
          rfl
        · cases failed
          cases interrupt.symm.trans caught

theorem silent
    (disposed : Disposed topic record obstacle ended result letters)
    (acknowledged : result = .ok .acknowledged) : letters = [] := by
  cases disposed with
  | acknowledged done => rfl
  | deadLettered caught free => cases acknowledged
  | lost caught barred => cases acknowledged
  | interrupted interrupt => rfl

theorem copied
    (disposed : Disposed topic record obstacle ended result letters)
    (deadLettered : result = .ok .deadLettered) :
    ∃ failure, ended = .error failure
      ∧ letters =
        [{ DeadLetter.letter topic record failure.description with acknowledged := true }] := by
  cases disposed with
  | acknowledged done => cases deadLettered
  | deadLettered caught free => exact ⟨_, rfl, rfl⟩
  | lost caught barred => cases deadLettered
  | interrupted interrupt => cases deadLettered

theorem uncopied
    (disposed : Disposed topic record obstacle ended result letters)
    {failure : Failure}
    (failed : result = .error failure) :
    letters.length ≤ 1 ∧ ∀ message ∈ letters, message.acknowledged = false := by
  cases disposed with
  | acknowledged done => cases failed
  | deadLettered caught free => cases failed
  | @lost cause met caught barred =>
      refine ⟨met.length_leaves_le_one _, fun message member => ?_⟩
      rw [Obstacle.unacknowledged_of_mem_leaves member]
  | interrupted interrupt => simp

theorem uncalled
    (disposed : Disposed topic record obstacle ended result letters)
    {failure : Failure}
    (failed : ended = .error failure)
    (interrupt : failure.isInterrupt = true) : letters = [] := by
  cases disposed with
  | acknowledged done => rfl
  | deadLettered caught free =>
      cases failed
      cases caught.symm.trans interrupt
  | lost caught barred =>
      cases failed
      cases caught.symm.trans interrupt
  | interrupted interrupt => rfl

end Disposed

/-- Whatever the record holds, the store and the broker do and the settings say, dispatching ends in
one of three ways, and the tables and the dead letters are accordingly. -/
theorem trichotomy_dispatch
    (service : Service)
    (retries : Int)
    (record : Record) :
    let (ended, between) := (Workflow.handle retries record.value).perform service
    let (result, after) := (dispatch retries record).perform service
    ∃ events letters, Trichotomy record service ended between result after events letters := by
  cases handled : (Workflow.handle retries record.value).perform service with
  | mk ended between =>
  cases performed : (dispatch retries record).perform service with
  | mk result after =>
  obtain ⟨next, worked, unchanged⟩ := Workflow.worked_handle handled
  obtain ⟨letters, disposed, sent, uses⟩ := disposed_dispatch handled performed
  obtain ⟨committed, deadLetters, -, events, earlier, topics⟩ := worked
  rw [deadLetters] at disposed
  have kept (unacknowledged : result ≠ .ok .acknowledged) :
      after.store.committed = service.store.committed := by
    cases ended with
    | ok done => exact absurd (disposed.acknowledged_iff.mpr ⟨done, rfl⟩) unacknowledged
    | error failure => rw [uses.store, committed, unchanged failure rfl]
  have gained (differs : service.events.topic ≠ service.deadLetters.topic) :
      after.broker.sent.filter (fun message => message.topic = service.deadLetters.topic) =
        service.broker.sent.filter (fun message => message.topic = service.deadLetters.topic)
          ++ letters := by
    rw [sent, earlier]
    exact filter_topic_append differs topics disposed.topic_eq
  refine ⟨events, letters, ?_⟩
  exact {
    acknowledged_iff := disposed.acknowledged_iff
    deadLettered_iff := disposed.deadLettered_iff
    failed_iff := disposed.failed_iff
    sent := ⟨earlier, sent⟩
    toEvents := topics
    toDeadLetters := disposed.topic_eq
    gained
    silent := disposed.silent
    copied := fun deadLettered => by
      obtain ⟨failure, failed, single⟩ := disposed.copied deadLettered
      exact ⟨failure, _, failed, single, rfl, rfl, rfl, rfl⟩
    uncopied := fun _ failed => disposed.uncopied failed
    uncalled := fun _ failed interrupt => disposed.uncalled failed interrupt
    kept }

end Dispatch
end Fulfilment
