import Fulfilment.Proofs.Concurrency.Served
import Fulfilment.Proofs.Consumer.Coverage
import Fulfilment.Proofs.Consumer.Discipline
import Fulfilment.Proofs.Dispatch.Account
import Fulfilment.Proofs.Operation.State

/-!
# Accounts of an operation

In every state of an operation, whatever a worker is at with a record is justified by the record and
by what is committed and sent.  A record that was given an outcome is accounted for, and stays so
whatever other workers and other runs do.
-/

namespace Fulfilment
namespace Operation

open Fulfilment.Consumer (Course Covered Handled Handler Move Notice Stage called pooled polled)
open Fulfilment.Dispatch (Accounted Consistent)

/-- What is so about a record by how far its dispatching has come. -/
def Justified
    (topic : String)
    (record : Record)
    (tables : Tables)
    (messages : List Message)
    (dispatching : Dispatching) : Prop :=
  match dispatching with
  | .waiting | .ended (.error _) => True
  | .attempting _ task => Event.decodeOrderCompleted record.value = .ok task.envelope
  | .rejecting _ => Event.decodeShippingCreated? record.value = none
  | .ended (.ok _) => Accounted topic record tables messages

/-- What was seen of a run so far, and how it goes with the records of its tickets. -/
structure Tracked
    (topic : String)
    (tables : Tables)
    (messages : List Message)
    (world : Consumer.World Record)
    (dispatching : Nat → Dispatching)
    (trace : List (Notice Record)) : Prop where
  -- Of the handler a stage knows only how it keys records, so the number of retries is any.
  stage : Stage (.ofService 0) trace world.site.view world.phase
  calls : world.running.consumer.calls = called trace
  covered : Covered (Handled trace) (called trace)
  polled : ∀ item, .accepted item ∈ pooled trace → item.job ∈ polled (called trace)
  ended : ∀ item result, .ended item result ∈ pooled trace → dispatching item.ticket = .ended result
  accepted : ∀ ticket, dispatching ticket ≠ .waiting →
    ∃ item, .accepted item ∈ pooled trace ∧ item.ticket = ticket
  justified : ∀ item, .accepted item ∈ pooled trace →
    Justified topic item.job tables messages (dispatching item.ticket)

/-- The events that are expected in records. -/
def expectedEvents
    (expected : Record → Prop)
    (envelope : Envelope OrderCompleted) : Prop :=
  ∃ record, expected record ∧ Event.decodeOrderCompleted record.value = .ok envelope

theorem agreeing_of_consistent
    {expected : Record → Prop}
    (consistent : Consistent expected) : Concurrency.Agreeing (expectedEvents expected) := by
  rintro first second eventId ⟨record, among, decoded⟩ ⟨other, otherAmong, otherDecoded⟩
  exact consistent record other first second eventId among otherAmong decoded otherDecoded

/-- What is so in every state of an operation whose records are expected. -/
structure Accountable
    {Run : Type}
    (expected : Record → Prop)
    (topic : String)
    (first : Tables)
    (state : State Run) : Prop where
  runs : ∀ run, ∃ trace, Tracked topic state.database.committed state.messages
    (state.consumer run) (state.dispatching run) trace
  sound : state.database.Sound Attempt.task first
  served : Concurrency.Served (expectedEvents expected) Attempt.task state.database
  letters : Message.announcements state.letters = []

variable
  {Run : Type}
  {expected : Record → Prop}
  {topic : String}
  {retries : Run → Int}
  {first tables next : Tables}
  {messages more letters : List Message}
  {record : Record}
  {dispatching after : Dispatching}
  {state : State Run}

/-! ## Records -/

theorem Justified.lasts
    (justified : Justified topic record tables messages dispatching)
    (once : ∀ orderId, tables.HasShipment orderId →
      next.shipmentsOf orderId = 1 ∧ announcementsOf (Message.announcements more) orderId = 1)
    (sent : ∀ message ∈ messages, message ∈ more) :
    Justified topic record next more dispatching := by
  cases dispatching with
  | waiting | attempting | rejecting => exact justified
  | ended result =>
      cases result with
      | error failure => trivial
      | ok outcome => exact Accounted.lasts justified once sent

/-- Dispatching announces nothing, since only records that announce nothing are copied. -/
theorem Dispatching.Next.announcements
    {limit : Nat}
    {phase : Nat → Workflow.Task → Concurrency.Phase}
    (goesOn : Dispatching.Next topic limit record phase dispatching letters after)
    (justified : Justified topic record tables messages dispatching) :
    Message.announcements letters = [] := by
  cases goesOn with
  | copy sending | lose sending => exact Dispatch.announcements_of_sending sending justified
  | mismatch | malformed | start | acknowledge | retry | reject | interrupt => rfl

/-- A record whose dispatching goes on stays justified, since an attempt with a result leaves its
order shipped. -/
theorem Dispatching.Next.justified
    {limit : Nat}
    {phase : Nat → Workflow.Task → Concurrency.Phase}
    (goesOn : Dispatching.Next topic limit record phase dispatching letters after)
    (justified : Justified topic record tables messages dispatching)
    (served : ∀ left task result, phase left task = .ended (.ok result) →
      tables.shipmentsOf task.envelope.payload.orderId = 1
        ∧ announcementsOf (Message.announcements more) task.envelope.payload.orderId = 1)
    (sent : ∀ letter ∈ letters, letter ∈ more) :
    Justified topic record tables more after := by
  cases goesOn with
  | mismatch decoded => exact .mismatched decoded
  | malformed decoded other =>
      refine Event.decodeShippingCreated?_eq_none fun name version mismatch => ?_
      exact other name version (Except.error.inj (decoded.symm.trans mismatch))
  | start decoded => exact decoded
  | acknowledge ended =>
      obtain ⟨shipped, announced⟩ := served _ _ _ ended
      exact .fulfilled justified shipped announced
  | @retry left task again cause ended conflict same =>
      change Event.decodeOrderCompleted record.value = .ok again.envelope
      rw [same]
      exact justified
  | @reject left task cause ended last caught =>
      have decoded : Event.decodeOrderCompleted record.value = .ok task.envelope := justified
      refine Event.decodeShippingCreated?_eq_none fun name version mismatch => ?_
      cases decoded.symm.trans mismatch
  | interrupt ended interrupted => trivial
  | copy sending => exact Dispatch.accounted_of_sending sending sent tables
  | lose sending => trivial

/-- Dispatching that has ended does not go on. -/
theorem Dispatching.Next.not_ended
    {limit : Nat}
    {phase : Nat → Workflow.Task → Concurrency.Phase}
    {result : Except Failure Dispatch.Outcome}
    (goesOn : Dispatching.Next topic limit record phase dispatching letters after) :
    dispatching ≠ .ended result := by
  cases goesOn <;> simp

/-! ## Runs -/

namespace Tracked

variable
  {world changed : Consumer.World Record}
  {dispatched : Nat → Dispatching}
  {trace notices : List (Notice Record)}

/-- A record keeps its justification while others go on. -/
theorem lasts
    (tracked : Tracked topic tables messages world dispatched trace)
    (once : ∀ orderId, tables.HasShipment orderId →
      next.shipmentsOf orderId = 1 ∧ announcementsOf (Message.announcements more) orderId = 1)
    (sent : ∀ message ∈ messages, message ∈ more) :
    Tracked topic next more world dispatched trace :=
  { tracked with
    justified := fun item accepted => (tracked.justified item accepted).lasts once sent }

/-- Only the pool, what was asked and where the thread is count of the world of a run. -/
theorem same
    (tracked : Tracked topic tables messages world dispatched trace)
    (stage : Stage (.ofService 0) trace changed.site.view changed.phase)
    (calls : changed.running.consumer.calls = world.running.consumer.calls) :
    Tracked topic tables messages changed dispatched trace :=
  { tracked with
    stage := stage
    calls := calls.trans tracked.calls }

/-- Accepted items with one ticket are one item. -/
theorem eq_of_accepted
    {item other : Pool.Item Record}
    (stage : Stage (.ofService 0) trace world.site.view world.phase)
    (accepted : .accepted item ∈ pooled trace)
    (otherAccepted : .accepted other ∈ pooled trace)
    (same : item.ticket = other.ticket) : item = other :=
  stage.regular.lined.eq_of_ticket_eq (Pool.mem_accepted.mpr accepted)
    (Pool.mem_accepted.mpr otherAccepted) same

/-- A move goes on with a run, if records end as dispatching them has ended. -/
theorem move
    {handler : Handler Record}
    (tracked : Tracked topic tables messages world dispatched trace)
    (keyed : handler.key = Record.orderKey)
    (move : Move handler world notices changed)
    (ends : ∀ item result, .pooled (.ended item result) ∈ notices →
      dispatched item.ticket = .ended result) :
    Tracked topic tables messages changed dispatched (trace ++ notices) := by
  have stage := tracked.stage.move keyed move
  have isNotice {event : Pool.Event Record Dispatch.Outcome} (member : event ∈ pooled notices) :
      .pooled event ∈ notices := by
    obtain ⟨notice, isIn, isEvent⟩ := List.mem_filterMap.mp member
    cases notice with
    | pooled other => exact Option.some.inj isEvent ▸ isIn
    | called | returned | uncommitted => cases isEvent
  refine ⟨stage, ?_, move.covered tracked.stage tracked.covered, ?_, ?_, ?_, ?_⟩
  · rw [move.calls, tracked.calls, Consumer.called_append]
  · intro item accepted
    rw [Consumer.called_append, Consumer.polled_append]
    rw [Consumer.pooled_append] at accepted
    rcases List.mem_append.mp accepted with earlier | now
    · exact List.mem_append_left _ (tracked.polled item earlier)
    · exact List.mem_append_left _ (move.polled_of_accepted tracked.stage (isNotice now))
  · intro item result ended
    rw [Consumer.pooled_append] at ended
    rcases List.mem_append.mp ended with earlier | now
    · exact tracked.ended item result earlier
    · exact ends item result (isNotice now)
  · intro ticket begun
    obtain ⟨item, accepted, same⟩ := tracked.accepted ticket begun
    exact ⟨item, by simp [accepted], same⟩
  · intro item accepted
    by_cases waiting : dispatched item.ticket = .waiting
    · rw [waiting]
      trivial
    · obtain ⟨other, earlier, same⟩ := tracked.accepted item.ticket waiting
      obtain rfl := eq_of_accepted stage accepted (by simp [earlier]) same.symm
      exact tracked.justified item earlier

/-- A record whose dispatching goes on stays tracked, and so do the others of its run. -/
theorem advance
    {item : Pool.Item Record}
    (tracked : Tracked topic tables messages world dispatched trace)
    (accepted : .accepted item ∈ pooled trace)
    (unended : ∀ result, dispatched item.ticket ≠ .ended result)
    (justified : Justified topic item.job tables messages after) :
    Tracked topic tables messages world (Function.update dispatched item.ticket after) trace where
  stage := tracked.stage
  calls := tracked.calls
  covered := tracked.covered
  polled := tracked.polled
  ended := fun other result ended => by
    have told := tracked.ended other result ended
    by_cases same : other.ticket = item.ticket
    · rw [same] at told
      exact absurd told (unended result)
    · rwa [Function.update_of_ne same]
  accepted := fun ticket begun => by
    by_cases same : ticket = item.ticket
    · exact ⟨item, accepted, same.symm⟩
    · rw [Function.update_of_ne same] at begun
      exact tracked.accepted ticket begun
  justified := fun other otherAccepted => by
    by_cases same : other.ticket = item.ticket
    · obtain rfl := eq_of_accepted tracked.stage otherAccepted accepted same
      rwa [Function.update_self]
    · rw [Function.update_of_ne same]
      exact tracked.justified other otherAccepted

/-- Whatever was polled before some commit is accounted for, since it was given an outcome. -/
theorem accounts
    (tracked : Tracked topic tables messages world dispatched trace) :
    Covered (fun record => Accounted topic record tables messages)
      world.running.consumer.calls := by
  rw [tracked.calls]
  refine tracked.covered.mono fun record handled => ?_
  obtain ⟨item, outcome, rfl, ended⟩ := handled
  have accepted := tracked.stage.regular.lined.accepted_of_handled
    (Pool.mem_handled.mpr (.inl ⟨_, ended⟩))
  have justified := tracked.justified item accepted
  rw [tracked.ended item _ ended] at justified
  exact justified

end Tracked

/-! ## States -/

/-- Where letters announce nothing, what is announced is announced by the events. -/
theorem State.announcements_messages
    (state : State Run)
    (silent : Message.announcements state.letters = []) :
    Message.announcements state.messages = state.database.announcements := by
  rw [messages, Message.announcements_append, silent, List.append_nil]
  rfl

namespace Accountable

/-- Before anything is done everything is accounted for. -/
theorem start
    (isFirst : state.IsFirst first)
    (unique : first.Unique)
    (unlisted : first.ledger = [])
    (expected : Record → Prop)
    (topic : String) : Accountable expected topic first state where
  runs := fun run => by
    obtain ⟨running, name, workerCount, capacity, pool, isWorld, uncalled, created, started⟩ :=
      isFirst.consumers run
    have nothing (ticket : Nat) : state.dispatching run ticket = .waiting :=
      isFirst.dispatching run ticket
    rw [isWorld]
    refine ⟨[], Consumer.stage_of_start created started, uncalled, ?_, ?_, ?_, ?_, ?_⟩
    · exact Consumer.covered_of_polled (by simp)
    · simp
    · simp
    · exact fun ticket begun => absurd (nothing ticket) begun
    · simp
  sound := by
    rw [isFirst.database]
    exact .start _ unique
  served := by
    rw [isFirst.database]
    exact .start _ _ unlisted
  letters := by
    rw [isFirst.letters]
    rfl

/-- A worker is at an attempt only at an expected event. -/
theorem expectedEvents_of_attempting
    {attempt : Attempt Run}
    (accountable : Accountable expected topic first state)
    (wanted : ∀ record, state.Polled record → expected record)
    (attempting : state.dispatching attempt.run attempt.ticket =
      .attempting attempt.left attempt.task) :
    expectedEvents expected attempt.task.envelope := by
  obtain ⟨trace, tracked⟩ := accountable.runs attempt.run
  obtain ⟨item, accepted, same⟩ := tracked.accepted attempt.ticket (by simp [attempting])
  have justified := tracked.justified item accepted
  rw [same, attempting] at justified
  refine ⟨item.job, wanted _ ⟨attempt.run, ?_⟩, justified⟩
  rw [State.calls, tracked.calls]
  exact tracked.polled item accepted

variable
  [DecidableEq Run]
  {after : State Run}

/-- A run that goes on with nothing committed or sent leaves the accounts of the others. -/
theorem turn
    {run : Run}
    {world : Consumer.World Record}
    {trace : List (Notice Record)}
    (accountable : Accountable expected topic first state)
    (tracked : Tracked topic state.database.committed state.messages world
      (state.dispatching run) trace) :
    Accountable expected topic first (state.turn run world) where
  runs := fun other => by
    by_cases same : other = run
    · subst same
      rw [State.consumer_turn_same]
      exact ⟨trace, tracked⟩
    · rw [State.consumer_turn_other same]
      exact accountable.runs other
  sound := accountable.sound
  served := accountable.served
  letters := accountable.letters

/-- A step of an attempt keeps everything accounted for. -/
theorem attempt
    {database : Concurrency.World (Attempt Run)}
    (accountable : Accountable expected topic first state)
    (consistent : Consistent expected)
    (none : ∀ orderId, first.shipmentsOf orderId = 0)
    (wanted : ∀ record, state.Polled record → expected record)
    (step : Concurrency.Step Attempt.task state.database database)
    (current : ∀ attempt, database.phase attempt ≠ state.database.phase attempt →
      state.dispatching attempt.run attempt.ticket = .attempting attempt.left attempt.task) :
    Accountable expected topic first { state with database } := by
  have progress := Concurrency.progress_of_step accountable.sound.locked accountable.sound.fits step
  have sound := accountable.sound.progress progress
  have served := accountable.served.step (agreeing_of_consistent consistent)
    accountable.sound.fits
    (fun attempt moved =>
      accountable.expectedEvents_of_attempting wanted (current attempt moved)) step
  refine ⟨fun run => ?_, sound, served, accountable.letters⟩
  obtain ⟨trace, tracked⟩ := accountable.runs run
  refine ⟨trace, tracked.lasts (fun orderId shipped => ?_) fun message member => ?_⟩
  · rw [State.announcements_messages { state with database } accountable.letters]
    exact sound.once (none orderId) (step.hasShipment shipped)
  · rcases List.mem_append.mp member with event | letter
    · exact List.mem_append_left _ ((step.sent_prefix.map Prod.snd).subset event)
    · exact List.mem_append_right _ letter

/-- A worker that goes on with the record at hand keeps everything accounted for. -/
theorem dispatch
    {run : Run}
    {item : Pool.Item Record}
    (accountable : Accountable expected topic first state)
    (none : ∀ orderId, first.shipmentsOf orderId = 0)
    (atHand : state.IsAtHand run item)
    (goesOn : Dispatching.Next topic (retries run).toNat item.job
      (state.attempts run item.ticket) (state.dispatching run item.ticket) letters dispatching) :
    Accountable expected topic first (state.advance run item.ticket dispatching letters) := by
  obtain ⟨trace, tracked⟩ := accountable.runs run
  have accepted : .accepted item ∈ pooled trace := by
    obtain ⟨worker, member, current⟩ := atHand
    obtain ⟨index, found⟩ := List.getElem?_of_mem member
    exact tracked.stage.regular.lined.accepted_of_mem_items found (Pool.mem_items.mpr (.inl current))
  have own := tracked.justified item accepted
  have silent : Message.announcements (state.letters ++ letters) = [] := by
    rw [Message.announcements_append, accountable.letters, goesOn.announcements own]
    rfl
  have once (orderId : Uuid) (shipped : state.database.committed.HasShipment orderId) :
      state.database.committed.shipmentsOf orderId = 1
        ∧ announcementsOf (Message.announcements
          (state.advance run item.ticket dispatching letters).messages) orderId = 1 := by
    rw [State.announcements_messages _ silent]
    exact accountable.sound.once (none orderId) shipped
  have kept (message : Message) (member : message ∈ state.messages) :
      message ∈ (state.advance run item.ticket dispatching letters).messages := by
    rw [State.messages, State.advance, ← List.append_assoc]
    exact List.mem_append_left _ member
  have served (left : Nat) (task : Workflow.Task) (result : Workflow.Result)
      (ended : state.attempts run item.ticket left task = .ended (.ok result)) :
      state.database.committed.HasShipment task.envelope.payload.orderId := by
    have isEnded : state.database.phase ⟨run, item.ticket, left, task⟩ = .ended (.ok result) := ended
    refine accountable.served.shipped ⟨run, item.ticket, left, task⟩ ?_
    rw [isEnded]
    trivial
  have justified := goesOn.justified own
    (fun left task result ended => once _ (served left task result ended))
    (fun letter member => List.mem_append_right _ (List.mem_append_right _ member))
  refine ⟨fun other => ?_, accountable.sound, accountable.served, silent⟩
  by_cases same : other = run
  · subst same
    rw [State.dispatching_advance_same]
    exact ⟨trace, (tracked.lasts once kept).advance accepted (fun result => goesOn.not_ended)
      justified⟩
  · obtain ⟨trace, tracked⟩ := accountable.runs other
    rw [State.dispatching_advance_other same]
    exact ⟨trace, tracked.lasts once kept⟩

/-- A step keeps everything accounted for. -/
theorem step
    (accountable : Accountable expected topic first state)
    (consistent : Consistent expected)
    (none : ∀ orderId, first.shipmentsOf orderId = 0)
    (wanted : ∀ record, state.Polled record → expected record)
    (step : Step topic retries state after) : Accountable expected topic first after := by
  cases step with
  | move run keyed move ends =>
      obtain ⟨trace, tracked⟩ := accountable.runs run
      exact accountable.turn (tracked.move keyed move ends)
  | interrupt run busy message =>
      obtain ⟨trace, tracked⟩ := accountable.runs run
      exact accountable.turn (tracked.same (tracked.stage.interrupt busy message) rfl)
  | log run poolLog log =>
      obtain ⟨trace, tracked⟩ := accountable.runs run
      exact accountable.turn (tracked.same (tracked.stage.withState _) rfl)
  | serve run service =>
      obtain ⟨trace, tracked⟩ := accountable.runs run
      exact accountable.turn (tracked.same (tracked.stage.withState service) rfl)
  | dispatch run atHand goesOn => exact accountable.dispatch none atHand goesOn
  | attempt step current => exact accountable.attempt consistent none wanted step current

end Accountable

variable
  [DecidableEq Run]
  {start after : State Run}

/-- A record that was polled stays so. -/
theorem Step.polled
    (step : Step topic retries state after)
    (polled : state.Polled record) : after.Polled record := by
  obtain ⟨other, member⟩ := polled
  refine ⟨other, ?_⟩
  have turned {run : Run} {world : Consumer.World Record} {more : List (Consumer.ConsumerCall Record)}
      (calls : world.running.consumer.calls = state.calls run ++ more) :
      record ∈ Consumer.polled ((state.turn run world).calls other) := by
    by_cases same : other = run
    · subst same
      rw [State.calls, State.consumer_turn_same, calls, Consumer.polled_append]
      exact List.mem_append_left _ member
    · rw [State.calls, State.consumer_turn_other same]
      exact member
  cases step with
  | move run keyed move ends => exact turned move.calls
  | interrupt run | log run | serve run => exact turned (List.append_nil _).symm
  | dispatch | attempt => exact member

/-- Everything is accounted for in every state that is reached. -/
theorem Accountable.reaches
    (accountable : Accountable expected topic first start)
    (consistent : Consistent expected)
    (none : ∀ orderId, first.shipmentsOf orderId = 0)
    (reaches : Reaches topic retries start state)
    (wanted : ∀ record, state.Polled record → expected record) :
    Accountable expected topic first state := by
  induction reaches with
  | refl => exact accountable
  | step before step ih =>
      have earlier := fun record polled => wanted record (step.polled polled)
      exact (ih earlier).step consistent none earlier step

end Operation
end Fulfilment
