import Fulfilment.Proofs.Consumer.Stages

/-!
# What is committed was handled

A consumer asks for a commit only after every record that it has polled so far was given an outcome,
whatever the workers do meanwhile and however the run ends.
-/

namespace Fulfilment
namespace Consumer

/-- The records that polls gave, in order. -/
def polled (calls : List (ConsumerCall Rec)) : List Rec :=
  calls.flatMap fun call =>
    match call with
    | .poll records => records
    | .commit | .close => []

/-- Every record that was polled before some commit was asked for satisfies a goal. -/
def Covered
    (goal : Rec → Prop)
    (calls : List (ConsumerCall Rec)) : Prop :=
  ∀ earlier later, calls = earlier ++ .commit :: later → ∀ record ∈ polled earlier, goal record

/-- A record was given an outcome. -/
def Handled
    (trace : List (Notice Rec))
    (record : Rec) : Prop :=
  ∃ item outcome, item.job = record ∧ .ended item (.ok outcome) ∈ pooled trace

variable
  {handler other : Handler Rec}
  {goal : Rec → Prop}
  {calls : List (ConsumerCall Rec)}
  {trace notices : List (Notice Rec)}
  {world next : World Rec}
  {view : Pool.View Rec Dispatch.Outcome Service}
  {records : List Rec}

@[simp] theorem polled_append (earlier later : List (ConsumerCall Rec)) :
    polled (earlier ++ later) = polled earlier ++ polled later :=
  List.flatMap_append

@[simp] theorem polled_nil : polled ([] : List (ConsumerCall Rec)) = [] := rfl

@[simp] theorem polled_poll
    (records : List Rec)
    (calls : List (ConsumerCall Rec)) : polled (.poll records :: calls) = records ++ polled calls :=
  rfl

@[simp] theorem polled_commit (calls : List (ConsumerCall Rec)) :
    polled (.commit :: calls) = polled calls := rfl

theorem covered_of_polled (all : ∀ record ∈ polled calls, goal record) : Covered goal calls := by
  rintro earlier later rfl record member
  rw [polled_append] at all
  exact all record (List.mem_append_left _ member)

theorem Covered.mono
    {weaker : Rec → Prop}
    (covered : Covered goal calls)
    (lasting : ∀ record, goal record → weaker record) : Covered weaker calls :=
  fun earlier later split record member =>
    lasting record (covered earlier later split record member)

/-- A call that is no commit covers nothing more. -/
theorem Covered.concat
    {call : ConsumerCall Rec}
    (covered : Covered goal calls)
    (other : call ≠ .commit) : Covered goal (calls ++ [call]) := by
  intro earlier later split record member
  rcases List.eq_nil_or_concat later with rfl | ⟨front, last, rfl⟩
  · have same := (List.append_inj' split rfl).2
    exact absurd (List.cons.inj same).1 other
  · rw [List.concat_eq_append, ← List.cons_append, ← List.append_assoc] at split
    exact covered earlier front (List.append_inj' split rfl).1 record member

/-- A record that was given an outcome was given it for good. -/
theorem Handled.append
    {record : Rec}
    (handled : Handled trace record)
    (more : List (Notice Rec)) : Handled (trace ++ more) record := by
  obtain ⟨item, outcome, about, ended⟩ := handled
  exact ⟨item, outcome, about, by simp [ended]⟩

/-- Records that were dispatched to outcomes were given them. -/
theorem Dispatched.handled
    {first : Nat}
    {outcomes : List Dispatch.Outcome}
    {events : List (Pool.Event Rec Dispatch.Outcome)}
    {record : Rec}
    (dispatched : Dispatched handler first records (outcomes.map .ok) events)
    (member : record ∈ records) :
    ∃ item outcome, item.job = record ∧ .ended item (.ok outcome) ∈ events := by
  obtain ⟨index, found⟩ := List.getElem?_of_mem member
  have inside : index < outcomes.length := by
    have length := dispatched.length
    rw [List.length_map] at length
    exact length ▸ (List.getElem?_eq_some_iff.mp found).1
  have ended : Pool.Event.ended (handler.item (first + index) record) (.ok outcomes[index]) ∈
      Pool.story events (first + index) := by
    rw [dispatched.once index record (.ok outcomes[index]) found (by simp [inside])]
    simp
  exact ⟨_, _, rfl, (Pool.mem_story.mp ended).1⟩

/-- In complete rounds every polled record was given an outcome. -/
theorem Rounds.handled
    {count : Nat}
    (rounds : Rounds handler trace count) :
    ∀ record ∈ polled (called trace), Handled trace record := by
  induction rounds with
  | nil =>
      intro record impossible
      cases impossible
  | empty rounds ih =>
      intro record member
      exact (ih record (by simpa using member)).append _
  | committed rounds some dispatched undisturbed acknowledged deadLettered sum ih =>
      intro record member
      rw [called_append, polled_append] at member
      rcases List.mem_append.mp member with earlier | last
      · exact (ih record earlier).append _
      · obtain ⟨item, outcome, about, ended⟩ := dispatched.handled (by simpa using last)
        exact ⟨item, outcome, about, by simpa using .inr ended⟩

/-- When all records of a round have outcomes, so have all that were polled before. -/
theorem Stage.handled
    {outcomes : List (Except Failure Dispatch.Outcome)}
    {counts : Counts}
    (stage : Stage handler trace view (.awaiting records outcomes []))
    (tallied : tally outcomes = .ok counts) :
    ∀ record ∈ polled (called trace), Handled trace record := by
  obtain ⟨done, count, events, rounds, rfl, -, dispatched, -⟩ := stage.dispatched
  obtain ⟨outcomes, rfl, -⟩ := exists_outcomes_of_tally tallied
  intro record member
  have member : record ∈ polled (called done) ∨ record ∈ records := by simpa using member
  rcases member with earlier | last
  · exact (rounds.handled record earlier).append _
  · obtain ⟨item, outcome, about, ended⟩ := dispatched.handled last
    exact ⟨item, outcome, about, by simpa using .inr ended⟩

/-- A move covers only what was handled, since a commit is asked for when all records of the round
have outcomes. -/
theorem Move.covered
    (move : Move other world notices next)
    (stage : Stage handler trace world.site.view world.phase)
    (covered : Covered (Handled trace) (called trace)) :
    Covered (Handled (trace ++ notices)) (called (trace ++ notices)) := by
  have earlier := covered.mono fun record handled => handled.append notices
  rw [called_append]
  cases move with
  | pollNothing | poll | close => exact earlier.concat nofun
  | commit awaiting tallied committed | failToCommit awaiting tallied committed =>
      rw [awaiting] at stage
      refine covered_of_polled fun record member => ?_
      exact (stage.handled tallied record (by simpa using member)).append _
  | give | refuse | wait | collect | fail | work | cease | failToPoll | stop =>
      simpa using earlier

/-- A record that is given to the pool was polled before. -/
theorem Move.polled_of_accepted
    {item : Pool.Item Rec}
    (move : Move other world notices next)
    (stage : Stage handler trace world.site.view world.phase)
    (accepted : .pooled (.accepted item) ∈ notices) : item.job ∈ polled (called trace) := by
  cases move with
  | @give records left tickets record ticket site giving step =>
      obtain rfl : item = other.item ticket record := by simpa using accepted
      rw [giving] at stage
      cases stage with
      | giving inRound split =>
          rw [inRound.seen, ← split]
          simp [polled, Handler.item]
  | work byWorker step =>
      obtain rfl := Notice.pooled.inj (List.mem_singleton.mp accepted)
      cases byWorker
  | stop ending byStop step =>
      obtain rfl := Notice.pooled.inj (List.mem_singleton.mp accepted)
      cases byStop
  | pollNothing | poll | refuse | wait | collect | fail | commit | failToCommit | cease
    | failToPoll | close => simp at accepted

end Consumer
end Fulfilment
