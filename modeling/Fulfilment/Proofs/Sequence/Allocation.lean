import Fulfilment.Sequence
import Fulfilment.Proofs.Workflow.Agreement

/-!
# One number

A number is taken in three steps: the counter of the key is made if there is none, read, and moved
on.  Together they do what fulfilling an order does in one.  What a call gives is told by the
counters that its session has found and by the earlier calls of the session.
-/

namespace Fulfilment

namespace Tables

/-- A key that was given a counter has one, which is due what the key was due. -/
theorem next?_withCounter
    (tables : Tables)
    (key : String) :
    (tables.withCounter key).counters.next? key = some (tables.due key) := by
  unfold withCounter due
  split
  · next current found => simp [found]
  · next absent => simp [absent]

/-- Moving on a counter that was made if there was none takes the number that was due. -/
theorem setCounter_withCounter
    (tables : Tables)
    (key : String) :
    (tables.withCounter key).setCounter key (tables.due key + 1) =
      if tables.due key < greatestCounter then .ok (tables.withTaken key (tables.due key))
      else .error .tooLarge := by
  have replaced : ∀ value,
      { tables.withCounter key with counters := (tables.withCounter key).counters.set key value } =
        { tables with counters := tables.counters.set key value } := by
    intro value
    unfold withCounter
    split
    · rfl
    · simp [Counters.set_set]
  rw [setCounter, replaced]
  rfl

/-- The tables once a number of each key was taken in turn.  The empty key has none. -/
def drawn
    (tables : Tables)
    (keys : List String) : Tables :=
  keys.foldl (fun drawn key => if key = "" then drawn else drawn.withTaken key (drawn.due key))
    tables

/-- More numbers are asked of some key than its counter can give. -/
def Overdrawn
    (tables : Tables)
    (keys : List String) : Prop :=
  ∃ key ∈ keys, key ≠ "" ∧ greatestCounter < tables.due key + keys.count key

instance (tables : Tables) (keys : List String) : Decidable (tables.Overdrawn keys) :=
  inferInstanceAs
    (Decidable (∃ key ∈ keys, key ≠ "" ∧ greatestCounter < tables.due key + keys.count key))

section

variable
  {tables : Tables}
  {keys more : List String}
  {key : String}

/-- One more number is taken of the tables as they are by then. -/
theorem drawn_concat :
    tables.drawn (keys ++ [key]) =
      if key = "" then tables.drawn keys
      else (tables.drawn keys).withTaken key ((tables.drawn keys).due key) := by
  simp [drawn]

/-- Taking numbers leaves the shipments and the ledger. -/
theorem rows_drawn :
    (tables.drawn keys).shipments = tables.shipments
      ∧ (tables.drawn keys).ledger = tables.ledger := by
  induction keys using List.reverseRecOn with
  | nil => exact ⟨rfl, rfl⟩
  | append_singleton keys last ih =>
      rw [drawn_concat]
      split
      · exact ih
      · exact ih

/-- A key is due as many numbers further as were taken of it. -/
theorem due_drawn (named : key ≠ "") :
    (tables.drawn keys).due key = tables.due key + keys.count key := by
  induction keys using List.reverseRecOn with
  | nil => simp [drawn]
  | append_singleton keys last ih =>
      rw [drawn_concat, List.count_append]
      by_cases empty : last = ""
      · subst empty
        simp [ih, Ne.symm named]
      · rw [if_neg empty]
        by_cases same : last = key
        · subst same
          simp [ih, Int.add_assoc]
        · simp [due_withTaken_other (Ne.symm same), ih, same]

/-- Taking numbers moves the counters of the keys that they were taken of. -/
theorem next?_drawn :
    (tables.drawn keys).counters.next? key =
      if key ≠ "" ∧ key ∈ keys then some (tables.due key + keys.count key)
      else tables.counters.next? key := by
  induction keys using List.reverseRecOn with
  | nil => simp [drawn]
  | append_singleton keys last ih =>
      rw [drawn_concat]
      by_cases empty : last = ""
      · subst empty
        by_cases named : key = ""
        · simpa [named] using ih
        · simp [named, ih, Ne.symm named, List.count_append]
      · rw [if_neg empty]
        by_cases same : last = key
        · subst same
          simp [withTaken, empty, due_drawn empty, List.count_append, Int.add_assoc]
        · simp [withTaken, Counters.next?_set_other (Ne.symm same), ih, Ne.symm same, same,
            List.count_append]

/-- What overdraws a counter overdraws it with more numbers asked, too. -/
theorem Overdrawn.append (overdrawn : tables.Overdrawn keys) : tables.Overdrawn (keys ++ more) := by
  obtain ⟨key, member, named, exceeds⟩ := overdrawn
  refine ⟨key, List.mem_append_left _ member, named, ?_⟩
  rw [List.count_append]
  omega

/-- One more number overdraws a counter exactly if that was so before or the key's own counter is
full by then. -/
theorem overdrawn_concat :
    tables.Overdrawn (keys ++ [key]) ↔
      tables.Overdrawn keys
        ∨ key ≠ "" ∧ greatestCounter ≤ tables.due key + keys.count key := by
  constructor
  · rintro ⟨other, member, named, exceeds⟩
    rw [List.count_append] at exceeds
    by_cases same : other = key
    · subst same
      refine .inr ⟨named, ?_⟩
      simp only [List.count_singleton_self] at exceeds
      omega
    · refine .inl ⟨other, by simpa [same] using member, named, ?_⟩
      simpa [List.count_singleton, Ne.symm same] using exceeds
  · rintro (overdrawn | ⟨named, full⟩)
    · exact overdrawn.append
    · refine ⟨key, by simp, named, ?_⟩
      rw [List.count_append, List.count_singleton_self]
      omega

end

end Tables

namespace Sequence

open Fulfilment.Action Fulfilment.Change Fulfilment.Service

/-- What a call gives in a session that has asked for some keys before.  A number depends on the
calls for its own key alone; a full counter gives none and breaks the session. -/
def dueAnswer
    (tables : Tables)
    (earlier : List String)
    (key : String) : Except Failure Int :=
  if key = "" then .error (.service (.sequence (some "") (some "partition key is empty")))
  else if tables.Overdrawn earlier then
    .error (.store (.awaitingRollback StoreError.tooLarge.message))
  else if Tables.greatestCounter ≤ tables.due key + earlier.count key then
    .error (.store .tooLarge)
  else .ok (tables.due key + earlier.count key)

/-- The store in a session that has asked for some keys. -/
def pending
    (tables : Tables)
    (earlier : List String) : Store :=
  if tables.Overdrawn earlier then ⟨tables, tables, some .tooLarge⟩
  else ⟨tables, tables.drawn earlier, none⟩

variable
  {dialect : String}
  {tables : Tables}
  {earlier : List String}
  {service : Service}

/-- A broken session gives no number. -/
theorem perform_nextSequence_of_broken
    {cause : StoreError}
    (broken : service.store.broken = some cause)
    (key : String) :
    (Workflow.nextSequence key).perform service =
      (.error (.store (.awaitingRollback cause.message)), service) := by
  simp [Workflow.nextSequence, inStore, perform_bind, Store.allocate, Store.update, broken]

/-- No dialect has numbers of the empty key. -/
theorem next_empty (dialect : String) :
    next dialect "" = fail (.service (.sequence (some "") (some "partition key is empty"))) := rfl

/-- Where the dialect has numbers, a call for a key that is not empty takes its next number. -/
theorem next_eq_nextSequence
    {key : String}
    (supported : dialect ∈ sequenceDialects)
    (named : key ≠ "") : next dialect key = Workflow.nextSequence key := by
  have allowed : sequenceRefusal? dialect key = none := by
    simp [sequenceRefusal?, named, supported]
  funext service
  change (next dialect key).perform service = (Workflow.nextSequence key).perform service
  rw [next, allowed]
  rcases session : service.store with ⟨tables, working, none | cause⟩
  · have same : service.writing ⟨tables, working, none⟩ service.issued service.log = service := by
      rw [writing, ← session]
    rw [← same]
    simp only [Workflow.nextSequence, Store.ensureCounter, Store.setCounter, Store.allocate,
      perform_bind, perform_update, perform_ask, Tables.next?_withCounter,
      Tables.setCounter_withCounter, Tables.allocate_eq]
    by_cases fits : working.due key < Tables.greatestCounter
    · simp only [fits, if_true]
      rfl
    · simp only [fits, if_false]
      rfl
  · have broken : service.store.broken = some cause := by rw [session]
    rw [perform_nextSequence_of_broken broken]
    simp [inStore, perform_bind, Store.ensureCounter, Store.update, broken]

/-- For the event of an order the number is the one that fulfilling takes. -/
theorem next_resolvedKey
    (supported : dialect ∈ sequenceDialects)
    (inbound : Envelope OrderCompleted) :
    next dialect inbound.resolvedKey = Workflow.nextSequence inbound.resolvedKey :=
  next_eq_nextSequence supported inbound.resolvedKey_ne_empty

/-- One call gives what is due, and the session goes on. -/
theorem perform_next
    (supported : dialect ∈ sequenceDialects)
    (opened : service.store = pending tables earlier)
    (key : String) :
    ∃ asked, (next dialect key).perform service = (dueAnswer tables earlier key, asked)
      ∧ asked.store = pending tables (earlier ++ [key]) := by
  by_cases empty : key = ""
  · subst empty
    refine ⟨service, by rw [next_empty, dueAnswer, if_pos rfl, perform_fail], ?_⟩
    rw [opened, pending, pending, Tables.drawn_concat, if_pos rfl]
    simp [Tables.overdrawn_concat]
  · rw [next_eq_nextSequence supported empty, dueAnswer, if_neg empty]
    by_cases overdrawn : tables.Overdrawn earlier
    · rw [pending, if_pos overdrawn] at opened
      refine ⟨service, ?_, ?_⟩
      · rw [perform_nextSequence_of_broken (by rw [opened]), if_pos overdrawn]
      · rw [opened, pending, if_pos overdrawn.append]
    · rw [pending, if_neg overdrawn] at opened
      have same : service.writing ⟨tables, tables.drawn earlier, none⟩ service.issued service.log =
          service := by
        rw [writing, ← opened]
      have taken := Workflow.perform_nextSequence service tables (tables.drawn earlier)
        service.issued service.log key
      rw [same, Tables.allocate_eq, Tables.due_drawn empty] at taken
      rw [taken, if_neg overdrawn, pending, Tables.drawn_concat, if_neg empty,
        Tables.due_drawn empty]
      by_cases full : Tables.greatestCounter ≤ tables.due key + earlier.count key
      · have broken := Tables.overdrawn_concat.mpr (.inr ⟨empty, full⟩)
        rw [if_neg (Int.not_lt.mpr full), if_pos full, if_pos broken]
        exact ⟨_, rfl, rfl⟩
      · have unbroken : ¬ tables.Overdrawn (earlier ++ [key]) := by
          simp [Tables.overdrawn_concat, overdrawn, full]
        rw [if_pos (Int.not_le.mp full), if_neg full, if_neg unbroken]
        exact ⟨_, rfl, rfl⟩

end Sequence
end Fulfilment
