import Fulfilment.Proofs.Operation.Accounts
import Fulfilment.Proofs.Operation.Sequence
import Fulfilment.Proofs.Workflow.Atomicity

/-!
# No event is lost

Any number of consumers of orders work on one database and one broker, and every record may be
polled any number of times.  However the threads, the workers and their attempts take turns, and
whatever fails or is interrupted, a record that was polled in a run before that run asked for a
commit is accounted for, and every order is shipped and announced at most once.
-/

namespace Fulfilment
namespace Operation

open Fulfilment.Consumer (Execution conductAll polled)
open Fulfilment.Dispatch (Accounted Consistent)

/-- Nothing is lost, and nothing is done twice. -/
structure NothingLost
    {Run : Type}
    (topic : String)
    (state : State Run) : Prop where
  /-- Every record that was polled in a run before that run asked for a commit is of another shape,
  or its order has one shipment with one announcement, or the broker has a copy of it that tells
  where it came from. -/
  accounted : ∀ run earlier later, state.calls run = earlier ++ .commit :: later →
    ∀ record ∈ polled earlier,
      Accounted topic record state.database.committed state.messages
  /-- No order has more than one shipment, -/
  shipped : ∀ orderId, state.database.committed.shipmentsOf orderId ≤ 1
  /-- or more than one announcement that was acknowledged. -/
  announced : ∀ orderId, announcementsOf (Message.announcements state.messages) orderId ≤ 1

/-- An operation in which runs of the program follow one another, each from its beginning to its
end. -/
structure IsSequence
    {Run : Type}
    [DecidableEq Run]
    (service : Service)
    (tables : Tables)
    (execution : Run → Execution)
    (runs : List Run)
    (first state : State Run) : Prop where
  /-- At first nothing is done, and every run has the consumer that it begins with. -/
  isFirst : first.IsFirst tables
  subscribed : ∀ run, (first.consumer run).running.consumer = (execution run).subscriber
  reaches :
    Reaches service.deadLetters.topic (fun run => (execution run).retries) first state
  /-- Each run asks its consumer for what it asks on its own, -/
  calls : runs.map state.calls = (conductAll (runs.map execution) (service.over tables)).1
  /-- and nothing is done besides. -/
  others : ∀ run ∉ runs, state.calls run = []
  /-- At last the same is committed, -/
  committed : state.database.committed =
    (conductAll (runs.map execution) (service.over tables)).2.store.committed
  /-- and the same is sent. -/
  messages :
    state.messages.Perm (conductAll (runs.map execution) (service.over tables)).2.broker.sent

variable
  {Run : Type}
  [DecidableEq Run]

/-- The state in which every run has the consumer that it begins with, and nothing is done. -/
def State.start
    (service : Service)
    (tables : Tables)
    (execution : Run → Execution) : State Run where
  consumer run := ⟨⟨(execution run).subscriber, service⟩, .free, .polling⟩
  dispatching _ _ := .waiting
  database := .start tables
  letters := []

/-- Runs of the program that follow one another are an operation. -/
theorem exists_isSequence
    {runs : List Run}
    (service : Service)
    (tables : Tables)
    (execution : Run → Execution)
    (nodup : runs.Nodup) :
    ∃ first state, IsSequence service tables execution runs first state := by
  have mirrors : Mirrors service.deadLetters.topic
      (State.start (service.over tables) tables execution) (service.over tables) :=
    ⟨service.rests_over tables, fun _ => rfl, .refl _, rfl⟩
  obtain ⟨last, reaches, calls, mirrored, others⟩ :=
    exists_reaches_conductAll nodup mirrors fun _ _ =>
      ⟨⟨_, rfl⟩, fun _ => ⟨rfl, fun _ _ => rfl⟩⟩
  refine ⟨_, last, {
    isFirst := ⟨fun run => ?_, fun _ _ => rfl, rfl, rfl⟩
    subscribed := fun _ => rfl
    reaches
    calls
    others := fun run outside => ?_
    committed := ?_
    messages := mirrored.sent }⟩
  · exact ⟨_, _, _, _, _, rfl, rfl, (execution run).create?_eq_ok, rfl⟩
  · rw [State.calls, others run outside]
    rfl
  · rw [mirrored.rests.store]
    rfl

/-- From empty tables with any counters, whatever the interleaving of any number of runs and
whatever fails, nothing is lost as long as events with the same identifier are about the same order.
Runs of the program that follow one another are such an operation. -/
theorem nothingLost_of_reaches (counters : Counters) :
    (∀ (topic : String) (retries : Run → Int) (first state : State Run),
        first.IsFirst { counters } → Reaches topic retries first state →
          Consistent state.Polled → NothingLost topic state)
      ∧ ∀ (service : Service) (execution : Run → Execution) (runs : List Run), runs.Nodup →
        ∃ first state, IsSequence service { counters } execution runs first state := by
  refine ⟨fun topic retries first state isFirst reaches consistent => ?_,
    fun service execution runs => exists_isSequence service { counters } execution⟩
  have start := Accountable.start isFirst ⟨.nil, .nil, .nil⟩ rfl state.Polled topic
  have accountable := start.reaches consistent (fun _ => rfl) reaches fun _ => id
  have once (orderId : Uuid) :=
    accountable.sound.atMostOnce (rfl : Tables.shipmentsOf { counters } orderId = 0)
  refine ⟨fun run => ?_, fun orderId => (once orderId).1, fun orderId => ?_⟩
  · obtain ⟨trace, tracked⟩ := accountable.runs run
    exact tracked.accounts
  · rw [state.announcements_messages accountable.letters]
    exact (once orderId).2

/-- The body of an order that is delivered more than once. -/
def redeliveredBody : List Char :=
  "\x7b\"eventName\":\"OrderCompleted\",\"eventVersion\":1,".toList
    ++ "\"eventId\":\"00000000-0000-4000-8000-000000000001\",".toList
    ++ "\"producer\":\"order-service\",\"schema\":\"s\",".toList
    ++ "\"occurredAt\":\"2025-01-01T00:00:00Z\",\"payload\":\x7b".toList
    ++ "\"orderId\":\"00000000-0000-4000-8000-000000000002\",".toList
    ++ "\"userId\":\"00000000-0000-4000-8000-000000000003\",".toList
    ++ "\"timestamp\":\"2025-01-01T00:00:00\"\x7d\x7d".toList

/-- A record that is polled more than once. -/
def redelivered : Record where
  topic := "orders"
  partition := 0
  offset := 7
  key := none
  value := some (Text.encodeChars redeliveredBody)
  headers := none

/-- A run that polls the record once. -/
def deliveringRun : Execution where
  retries := 1
  clock := ⟨⟨⟨2025, 1, 1, isDate_firstOf2025⟩, .midnight⟩⟩
  subscription := "orders"
  workerCount := 1
  staffed := Nat.one_pos
  capacity := 100
  polls := [[[redelivered]]]
  ending := .polled none

/-- A record that is polled in two runs, both of which ask for a commit, is accounted for. -/
theorem nothingLost_of_reaches_redelivered :
    ∃ first state : State Bool, first.IsFirst {}
      ∧ Reaches "shipping-service.dlq" (fun _ => 1) first state
      ∧ (∀ run, state.calls run = [.poll [redelivered], .commit, .close])
      ∧ Consistent state.Polled
      ∧ Accounted "shipping-service.dlq" redelivered state.database.committed state.messages := by
  have asked :
      let service : Service := { clock := deliveringRun.clock }
      (conductAll [deliveringRun, deliveringRun] (service.over {})).1 =
        [[.poll [redelivered], .commit, .close], [.poll [redelivered], .commit, .close]] := by
    unfold deliveringRun redelivered redeliveredBody
    simp only [String.reduceToList]
    decide +kernel
  obtain ⟨nothingLost, sequences⟩ := @nothingLost_of_reaches Bool _ []
  obtain ⟨first, state, sequence⟩ :=
    sequences { clock := deliveringRun.clock } (fun _ => deliveringRun) [false, true] (by decide)
  have calls (run : Bool) : state.calls run = [.poll [redelivered], .commit, .close] := by
    have both := sequence.calls.trans asked
    simp only [List.map_cons, List.map_nil, List.cons.injEq, and_true] at both
    cases run with
    | false => exact both.1
    | true => exact both.2
  have only (record : Record) (isPolled : state.Polled record) : record = redelivered := by
    obtain ⟨run, member⟩ := isPolled
    rw [calls] at member
    exact List.mem_singleton.mp member
  have consistent : Consistent state.Polled := by
    intro record other envelope otherEnvelope eventId among otherAmong decoded otherDecoded _ _
    rw [only record among] at decoded
    rw [only other otherAmong] at otherDecoded
    cases decoded.symm.trans otherDecoded
    rfl
  have safe := nothingLost _ _ first state sequence.isFirst sequence.reaches consistent
  exact ⟨first, state, sequence.isFirst, sequence.reaches, calls, consistent,
    safe.accounted false [.poll [redelivered]] [.close] (calls false) redelivered (.head _)⟩

end Operation
end Fulfilment
