import Fulfilment.Proofs.Consumer.Interleaving

/-!
# Rounds of a consumer

A run of a consumer is a sequence of rounds.  In a round that polls nothing, nothing happens.  In
any other round every polled record is given to the pool, begun and ended, once each, and then the
batch is committed.  The last round may end without a commit, and what is seen of a run behind its
last round is that the pool is stopped and the consumer closed.
-/

namespace Fulfilment
namespace Consumer

/-- Records were dispatched once each, under tickets that begin with a first one. -/
structure Dispatched
    (handler : Handler Rec)
    (first : Nat)
    (records : List Rec)
    (results : List (Except Failure Dispatch.Outcome))
    (events : List (Pool.Event Rec Dispatch.Outcome)) : Prop where
  length : results.length = records.length
  once : ∀ (index : Nat) (record : Rec) (result : Except Failure Dispatch.Outcome),
    records[index]? = some record → results[index]? = some result →
      Pool.story events (first + index) =
        [.accepted (handler.item (first + index) record),
          .begun (handler.item (first + index) record),
          .ended (handler.item (first + index) record) result]
  only : ∀ (event : Pool.Event Rec Dispatch.Outcome) (ticket : Nat), event ∈ events →
    event.ticket? = some ticket → ∃ index < records.length, ticket = first + index

/-- Nothing but what is about items, of which none is taken back. -/
def Undisturbed (events : List (Pool.Event Rec Dispatch.Outcome)) : Prop :=
  ∀ event ∈ events, event.ticket?.isSome = true ∧ ∀ ticket, event ≠ .cancelled ticket

/-- Rounds that are complete, and how many records they dispatched. -/
inductive Rounds (handler : Handler Rec) : List (Notice Rec) → Nat → Prop where
  | nil : Rounds handler [] 0
  | empty {trace : List (Notice Rec)} {count : Nat}
      (rounds : Rounds handler trace count) :
      Rounds handler (trace ++ [.called (.poll []), .returned {}]) count
  | committed {trace : List (Notice Rec)} {count : Nat} {records : List Rec}
      {outcomes : List Dispatch.Outcome} {events : List (Pool.Event Rec Dispatch.Outcome)}
      {counts : Counts}
      (rounds : Rounds handler trace count)
      (some : records ≠ [])
      (dispatched : Dispatched handler count records (outcomes.map .ok) events)
      (undisturbed : Undisturbed events)
      (acknowledged : counts.acknowledged = outcomes.count .acknowledged)
      (deadLettered : counts.deadLettered = outcomes.count .deadLettered)
      (sum : counts.acknowledged + counts.deadLettered = records.length) :
      Rounds handler
        (trace ++ (.called (.poll records) :: events.map .pooled
          ++ [.called .commit, .returned counts]))
        (count + records.length)

/-- The first failure of a list of results. -/
def FirstFailure
    (results : List (Except Failure Dispatch.Outcome))
    (failure : Failure) : Prop :=
  ∃ index : Nat, results[index]? = some (.error failure)
    ∧ ∀ earlier < index, ∃ outcome, results[earlier]? = some (.ok outcome)

/-- What is seen of a last round that is not complete, with the events that go on meanwhile in the
pool, and how it ends. -/
inductive Last (handler : Handler Rec) (count : Nat) :
    List (Notice Rec) → List (Pool.Event Rec Dispatch.Outcome) → Option Failure → Prop where
  /-- The thread was told to stop, or a poll failed. -/
  | idle {behind : List (Pool.Event Rec Dispatch.Outcome)} (failure : Option Failure)
      (calm : ∀ event ∈ behind, event.ticket? = none) :
      Last handler count [] behind failure
  | failed {records : List Rec} {results : List (Except Failure Dispatch.Outcome)}
      {events behind : List (Pool.Event Rec Dispatch.Outcome)} {failure : Failure}
      (dispatched : Dispatched handler count records results events)
      (undisturbed : Undisturbed events)
      (isFirst : FirstFailure results failure)
      (calm : ∀ event ∈ behind, event.ticket? = none) :
      Last handler count (.called (.poll records) :: events.map .pooled) behind failure
  /-- The commit failed, and its failure is the one that the round ends with. -/
  | uncommitted {records : List Rec} {outcomes : List Dispatch.Outcome}
      {events behind : List (Pool.Event Rec Dispatch.Outcome)} (failure : Failure)
      (some : records ≠ [])
      (dispatched : Dispatched handler count records (outcomes.map .ok) events)
      (undisturbed : Undisturbed events)
      (calm : ∀ event ∈ behind, event.ticket? = none) :
      Last handler count
        (.called (.poll records) :: events.map .pooled
          ++ [.called .commit, .uncommitted failure])
        behind failure
  /-- The thread was interrupted when it had given some of the records to the pool. -/
  | interrupted {records given : List Rec} {results : List (Except Failure Dispatch.Outcome)}
      {events behind : List (Pool.Event Rec Dispatch.Outcome)} (message : String)
      (isPrefix : given <+: records)
      (dispatched : Dispatched handler count given results (events ++ behind))
      (undisturbed : Undisturbed events) :
      Last handler count (.called (.poll records) :: events.map .pooled) behind
        (some (.interrupt message))

/-- Whether an event goes on while a pool is stopped. -/
def Meanwhile (event : Pool.Event Rec Dispatch.Outcome) : Prop :=
  event.byWorker = true ∨ ∃ index, event = .asked index

/-- What is seen of a run that is over: rounds, a last one, the stopping of the pool, and the
closing of the consumer. -/
inductive Over (handler : Handler Rec) : List (Notice Rec) → Option Failure → Prop where
  | mk {trace last : List (Notice Rec)} {count : Nat}
      {meanwhile : List (Pool.Event Rec Dispatch.Outcome)} {failure : Option Failure}
      (rounds : Rounds handler trace count)
      (isLast : Last handler count last (.stopping :: meanwhile ++ [.stopped]) failure)
      (stops : ∀ event ∈ meanwhile, Meanwhile event) :
      Over handler
        (trace ++ last ++ .pooled .stopping :: meanwhile.map .pooled
          ++ [.pooled .stopped, .called .close]) failure

variable
  {handler : Handler Rec}
  {results : List (Except Failure Dispatch.Outcome)}
  {counts : Counts}
  {failure : Failure}

/-! ## Tallies -/

theorem exists_outcomes_of_foldlM
    {start : Counts}
    (tallied : results.foldlM (fun counts outcome => outcome.map counts.add) start =
      .ok counts) :
    ∃ outcomes : List Dispatch.Outcome, results = outcomes.map .ok
      ∧ counts.acknowledged = start.acknowledged + outcomes.count .acknowledged
      ∧ counts.deadLettered = start.deadLettered + outcomes.count .deadLettered := by
  induction results generalizing start with
  | nil =>
      cases tallied
      exact ⟨[], rfl, rfl, rfl⟩
  | cons result results ih =>
      cases result with
      | error failure => cases tallied
      | ok outcome =>
          obtain ⟨outcomes, rfl, acknowledged, deadLettered⟩ := ih tallied
          refine ⟨outcome :: outcomes, rfl, ?_, ?_⟩
          · cases outcome with
            | acknowledged =>
                simp [acknowledged, Counts.add]
                omega
            | deadLettered => simp [acknowledged, Counts.add]
          · cases outcome with
            | acknowledged => simp [deadLettered, Counts.add]
            | deadLettered =>
                simp [deadLettered, Counts.add]
                omega

/-- Counts of a batch are those of its outcomes. -/
theorem exists_outcomes_of_tally
    (tallied : tally results = .ok counts) :
    ∃ outcomes : List Dispatch.Outcome, results = outcomes.map .ok
      ∧ counts.acknowledged = outcomes.count .acknowledged
      ∧ counts.deadLettered = outcomes.count .deadLettered := by
  simpa using exists_outcomes_of_foldlM tallied

theorem firstFailure_of_foldlM
    {start : Counts}
    (tallied : results.foldlM (fun counts outcome => outcome.map counts.add) start =
      .error failure) : FirstFailure results failure := by
  induction results generalizing start with
  | nil => cases tallied
  | cons result results ih =>
      cases result with
      | error failure =>
          cases tallied
          exact ⟨0, rfl, fun earlier impossible => absurd impossible (Nat.not_lt_zero _)⟩
      | ok outcome =>
          obtain ⟨index, isFailure, before⟩ := ih tallied
          refine ⟨index + 1, isFailure, fun earlier isEarlier => ?_⟩
          cases earlier with
          | zero => exact ⟨outcome, rfl⟩
          | succ earlier => exact before earlier (Nat.lt_of_succ_lt_succ isEarlier)

/-- The failure of a tally is the first one. -/
theorem firstFailure_of_tally
    (tallied : tally results = .error failure) : FirstFailure results failure :=
  firstFailure_of_foldlM tallied

theorem count_add_count (outcomes : List Dispatch.Outcome) :
    outcomes.count .acknowledged + outcomes.count .deadLettered = outcomes.length := by
  induction outcomes with
  | nil => rfl
  | cons outcome outcomes ih => cases outcome <;> simp <;> omega

end Consumer
end Fulfilment
