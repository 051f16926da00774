import Fulfilment.Proofs.Workflow.Run

/-!
# Numbers without gaps

The shipments that are announced under one partition key are numbered one after the other, from
the number that the key was due.  A number that is taken by a call which fails is given back with
everything else, and a key whose numbers are used up announces nothing.
-/

namespace Fulfilment

/-- A key has no number to give. -/
def Tables.Exhausted
    (tables : Tables)
    (key : String) : Prop :=
  tables.due key < 0 ∨ greatestCounter ≤ tables.due key

namespace Workflow

/-- The partition key of the order in the body of a call. -/
def Call.key? (call : Call) : Option String :=
  match call.decoded with
  | .ok envelope => some envelope.resolvedKey
  | .error _ => none

/-- A call creates a shipment under a key. -/
def Call.creates
    (call : Call)
    (key : String) : Bool :=
  match call.ending with
  | .ok result => result.outcome = .created && call.key? = some key
  | .error _ => false

/-- A call would create a shipment if nothing kept it from doing so. -/
def Call.WouldCreate (call : Call) : Prop :=
  ∃ envelope, call.decoded = .ok envelope ∧ ¬ call.IsKnown envelope
    ∧ ¬ call.before.HasShipment envelope.payload.orderId

/-- How many calls create a shipment under a key. -/
def createdUnder
    (calls : List Call)
    (key : String) : Nat :=
  calls.countP fun call => call.creates key

namespace Effect

variable {call : Call}

/-- A call that creates nothing leaves every counter and announces nothing. -/
theorem of_not_created
    (effect : Effect call)
    (other : ¬ call.EndsWith .created) :
    call.after.counters = call.before.counters ∧ call.announcements = [] := by
  cases effect with
  | undecodable _ _ _ kept silent => exact ⟨by rw [kept], by simp [Call.announcements, silent]⟩
  | mismatched _ _ kept silent => exact ⟨by rw [kept], by simp [Call.announcements, silent]⟩
  | duplicate _ _ _ kept silent => exact ⟨by rw [kept], by simp [Call.announcements, silent]⟩
  | fulfilled _ _ _ _ entered silent =>
      refine ⟨?_, by simp [Call.announcements, silent]⟩
      rw [entered]
      rfl
  | failed _ _ _ _ kept unacknowledged _ =>
      exact ⟨by rw [kept], Message.announcements_of_unacknowledged unacknowledged⟩
  | created ending creates => exact absurd ⟨_, ending, by rw [creates.result]⟩ other

/-- A call leaves the counters of all keys but its own. -/
theorem next?_of_other
    {key : String}
    (effect : Effect call)
    (other : call.key? ≠ some key) :
    call.after.counters.next? key = call.before.counters.next? key := by
  by_cases created : call.EndsWith .created
  · obtain ⟨result, ended, outcome⟩ := created
    obtain ⟨envelope, shipment, event, creates⟩ := effect.of_created ended outcome
    have differs : key ≠ envelope.resolvedKey := by
      rintro rfl
      exact other (by simp [Call.key?, creates.decoded])
    rw [creates.tables]
    exact Counters.next?_set_other differs _ _
  · rw [(effect.of_not_created created).1]

/-- A call that creates nothing under a key leaves its counter and announces nothing under it. -/
theorem of_not_creates
    {key : String}
    (effect : Effect call)
    (other : call.creates key = false) :
    call.after.counters.next? key = call.before.counters.next? key
      ∧ numbersUnder call.announcements key = [] := by
  by_cases created : call.EndsWith .created
  · obtain ⟨result, ended, outcome⟩ := created
    obtain ⟨envelope, shipment, event, creates⟩ := effect.of_created ended outcome
    have differs : envelope.resolvedKey ≠ key := by
      rintro rfl
      simp [Call.creates, ended, outcome, Call.key?, creates.decoded] at other
    refine ⟨effect.next?_of_other ?_, ?_⟩
    · simpa [Call.key?, creates.decoded] using differs
    · simp [numbersUnder, creates.announcements, creates.partitionKey, differs]
  · obtain ⟨kept, silent⟩ := effect.of_not_created created
    exact ⟨by rw [kept], by simp [numbersUnder, silent]⟩

/-- A call that creates a shipment under a key creates one. -/
theorem createsOne_of_creates
    {key : String}
    (effect : Effect call)
    (own : call.creates key = true) :
    ∃ envelope result shipment event, call.ending = .ok result
      ∧ CreatesOne call envelope result shipment event ∧ envelope.resolvedKey = key := by
  cases ended : call.ending with
  | error failure => simp [Call.creates, ended] at own
  | ok result =>
      simp only [Call.creates, ended, Bool.and_eq_true, decide_eq_true_eq] at own
      obtain ⟨envelope, shipment, event, creates⟩ := effect.of_created ended own.1
      refine ⟨envelope, result, shipment, event, rfl, creates, ?_⟩
      simpa [Call.key?, creates.decoded] using own.2

/-- A call that creates a shipment under a key takes its number and announces it. -/
theorem of_creates
    {key : String}
    (effect : Effect call)
    (own : call.creates key = true) :
    call.after.counters.next? key = some (call.before.due key + 1)
      ∧ numbersUnder call.announcements key = [some (call.before.due key)] := by
  obtain ⟨envelope, result, shipment, event, -, creates, rfl⟩ := effect.createsOne_of_creates own
  refine ⟨?_, ?_⟩
  · rw [creates.tables]
    exact Counters.next?_set_same _ _ _
  · simp [numbersUnder, creates.announcements, creates.partitionKey, creates.number]

end Effect

/-- The numbers that a trace announces under a key follow each other, and the counter goes with
them. -/
theorem Trace.consecutive
    {tables last : Tables}
    {calls : List Call}
    (trace : Trace tables calls last)
    (key : String) :
    numbersUnder (calls.flatMap Call.announcements) key =
        Fulfilment.consecutive (tables.due key) (createdUnder calls key)
      ∧ last.counters.next? key =
        if createdUnder calls key = 0 then tables.counters.next? key
        else some (tables.due key + createdUnder calls key) := by
  induction trace with
  | nil tables => exact ⟨rfl, rfl⟩
  | @cons call calls last effect _ ih =>
      obtain ⟨numbers, counter⟩ := ih
      rw [List.flatMap_cons, numbersUnder_append, numbers, counter]
      cases creates : call.creates key with
      | false =>
          obtain ⟨kept, silent⟩ := effect.of_not_creates creates
          have count : createdUnder (call :: calls) key = createdUnder calls key := by
            simp [createdUnder, creates]
          rw [silent, count, Tables.due, kept]
          exact ⟨rfl, rfl⟩
      | true =>
          obtain ⟨taken, announced⟩ := effect.of_creates creates
          have count : createdUnder (call :: calls) key = createdUnder calls key + 1 := by
            simp [createdUnder, creates]
          have due : call.after.due key = call.before.due key + 1 := by
            rw [Tables.due, taken, Option.getD_some]
          rw [announced, count, due, taken, consecutive_succ]
          refine ⟨rfl, ?_⟩
          by_cases none : createdUnder calls key = 0
          · simp [none]
          · simp only [none, if_false, Nat.add_eq_zero_iff, false_and, Option.some.injEq]
            omega

namespace Effect

variable
  {call : Call}
  {key : String}

/-- A shipment that is created under a key is announced with the number of the result. -/
theorem announced_of_creates
    (effect : Effect call)
    (own : call.creates key = true) :
    ∃ result event, call.ending = .ok result ∧ call.announcements = [event]
      ∧ event.partitionKey = key ∧ result.sequence = event.number? := by
  obtain ⟨envelope, result, shipment, event, ended, creates, rfl⟩ :=
    effect.createsOne_of_creates own
  refine ⟨result, event, ended, creates.announcements, creates.partitionKey, ?_⟩
  rw [creates.result]
  exact creates.number.symm

/-- No shipment is created under an exhausted key. -/
theorem not_creates_of_exhausted
    (effect : Effect call)
    (exhausted : call.before.Exhausted key) : call.creates key = false := by
  cases own : call.creates key with
  | false => rfl
  | true =>
      obtain ⟨envelope, result, shipment, event, -, creates, rfl⟩ :=
        effect.createsOne_of_creates own
      have nonnegative := creates.nonnegative
      have fits := creates.fits
      rcases exhausted with negative | full <;> omega

/-- An exhausted key stays exhausted. -/
theorem exhausted_after
    (effect : Effect call)
    (exhausted : call.before.Exhausted key) : call.after.Exhausted key := by
  obtain ⟨kept, -⟩ := effect.of_not_creates (effect.not_creates_of_exhausted exhausted)
  rw [Tables.Exhausted, Tables.due, kept]
  exact exhausted

/-- A call that would create a shipment under an exhausted key fails and does nothing. -/
theorem of_exhausted
    (effect : Effect call)
    (exhausted : call.before.Exhausted key)
    (own : call.key? = some key)
    (would : call.WouldCreate) :
    (∃ failure, call.ending = .error failure) ∧ call.after = call.before ∧ call.sent = [] := by
  obtain ⟨envelope, decoded, unknown, unshipped⟩ := would
  have same : envelope.resolvedKey = key := by simpa [Call.key?, decoded] using own
  subst same
  cases effect with
  | undecodable other => cases decoded.symm.trans other
  | mismatched other => cases decoded.symm.trans other
  | duplicate other known _ _ _ =>
      cases decoded.symm.trans other
      exact absurd known unknown
  | fulfilled other _ found _ _ _ =>
      cases decoded.symm.trans other
      exact absurd ⟨_, Tables.hasShipment_of_shipmentOfOrder? found⟩ unshipped
  | failed other _ _ ending kept _ possible =>
      cases decoded.symm.trans other
      refine ⟨⟨_, ending⟩, kept, ?_⟩
      by_cases silent : call.sent = []
      · exact silent
      · obtain ⟨nonnegative, fits⟩ := possible silent
        rcases exhausted with negative | full <;> omega
  | created ending creates =>
      cases decoded.symm.trans creates.decoded
      have nonnegative := creates.nonnegative
      have fits := creates.fits
      rcases exhausted with negative | full <;> omega

end Effect

/-- A trace creates nothing under a key that is exhausted at its start. -/
theorem Trace.createdUnder_of_exhausted
    {tables last : Tables}
    {calls : List Call}
    {key : String}
    (trace : Trace tables calls last)
    (exhausted : tables.Exhausted key) : createdUnder calls key = 0 := by
  induction trace with
  | nil tables => rfl
  | @cons call calls last effect _ ih =>
      have rest := ih (effect.exhausted_after exhausted)
      simp only [createdUnder] at rest
      simp [createdUnder, effect.not_creates_of_exhausted exhausted, rest]

/-- From any tables, after any deliveries and under any faults of the broker, the acknowledged
messages of a key carry the numbers from the one that the key was due, one after the other and one
for each shipment created under the key; the counter has moved on by so many; every call tells the
number that its message carries; no call moves the counter of another key; and under an exhausted
key every call that would create a shipment fails and does nothing. -/
theorem consecutive_run
    (service : Service)
    (tables : Tables)
    (retries : Int)
    (deliveries : List Delivery)
    (key : String) :
    let (calls, last) := run retries deliveries (service.over tables)
    numbersUnder (Message.announcements last.broker.sent) key =
        consecutive (tables.due key) (createdUnder calls key)
      ∧ (last.store.committed.counters.next? key =
        if createdUnder calls key = 0 then tables.counters.next? key
        else some (tables.due key + createdUnder calls key))
      ∧ (∀ call ∈ calls, call.creates key = true →
        ∃ result event, call.ending = .ok result ∧ call.announcements = [event]
          ∧ event.partitionKey = key ∧ result.sequence = event.number?)
      ∧ (∀ call ∈ calls, call.key? ≠ some key →
        call.after.counters.next? key = call.before.counters.next? key)
      ∧ (tables.Exhausted key → createdUnder calls key = 0)
      ∧ ∀ call ∈ calls, call.before.Exhausted key → call.key? = some key → call.WouldCreate →
        (∃ failure, call.ending = .error failure) ∧ call.after = call.before ∧ call.sent = [] := by
  obtain ⟨trace, -⟩ := trace_run retries deliveries (service.rests_over tables)
  obtain ⟨numbers, counter⟩ := trace.consecutive key
  refine ⟨?_, counter, ?_, ?_, trace.createdUnder_of_exhausted, ?_⟩
  · rw [announcements_run]
    exact numbers
  · intro call member own
    exact (trace.effect call member).announced_of_creates own
  · intro call member other
    exact (trace.effect call member).next?_of_other other
  · intro call member exhausted own would
    exact (trace.effect call member).of_exhausted exhausted own would

end Workflow
end Fulfilment
