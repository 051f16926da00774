import Fulfilment.Proofs.Pool.Stories

/-!
# Results of a schedule

The counts of a pool are those of its tickets.  The jobs that ended did so one after the other, in
the order of their ends: each result is what its own job gives in the state that the jobs before
it left, and nothing else changes that state.
-/

namespace Fulfilment
namespace Pool

/-- Whether an item ended with a value. -/
def Ticket.hasValue : Ticket Value → Bool
  | .finished result => succeeded result
  | _ => false

/-- Whether an item ended with a failure. -/
def Ticket.hasFailure : Ticket Value → Bool
  | .finished result => !succeeded result
  | _ => false

/-- Whether an item was taken back. -/
def Ticket.isCancelled : Ticket Value → Bool
  | .cancelled => true
  | _ => false

/-- The item that ends by an event, and its result. -/
def Event.ends : Event Job Value → Option (Item Job × Except Failure Value)
  | .ended item result => some (item, result)
  | _ => none

/-- The items that ended, in order, each with its result. -/
def ended (events : List (Event Job Value)) : List (Item Job × Except Failure Value) :=
  events.filterMap Event.ends

/-- Run jobs one after the other. -/
def performAll (run : Job → State → Except Failure Value × State) :
    List Job → State → List (Except Failure Value) × State
  | [], state => ([], state)
  | job :: jobs, state =>
      let (result, state) := run job state
      let (results, state) := performAll run jobs state
      (result :: results, state)

variable
  {Job Value State : Type}
  {run : Job → State → Except Failure Value × State}
  {events : List (Event Job Value)}
  {view next : View Job Value State}
  {event : Event Job Value}

/-! ## Counts -/

theorem countP_set
    {tickets : List (Ticket Value)}
    {ticket : Nat}
    {before : Ticket Value}
    (found : tickets[ticket]? = some before)
    (after : Ticket Value)
    (counts : Ticket Value → Bool) :
    (tickets.set ticket after).countP counts + (counts before).toNat =
      tickets.countP counts + (counts after).toNat := by
  induction tickets generalizing ticket with
  | nil => cases found
  | cons first rest ih =>
      cases ticket with
      | zero =>
          cases found
          cases isBefore : counts before <;> cases isAfter : counts after <;>
            simp [isBefore, isAfter]
      | succ ticket =>
          have step := ih found
          simp only [List.set_cons_succ, List.countP_cons]
          omega

/-- The counts of a pool are those of its tickets. -/
structure Counted (view : View Job Value State) : Prop where
  submitted : view.submitted = view.tickets.length
  processed : view.processed = view.tickets.countP Ticket.hasValue
  failed : view.failed = view.tickets.countP Ticket.hasFailure

namespace Counted

/-- A change of a ticket, with the counts that go with it. -/
theorem set
    {ticket : Nat}
    {before after : Ticket Value}
    (counted : Counted view)
    (found : view.tickets[ticket]? = some before)
    (unfinished : before.hasValue = false ∧ before.hasFailure = false)
    (tickets : next.tickets = view.tickets.set ticket after)
    (submitted : next.submitted = view.submitted)
    (processed : next.processed = view.processed + after.hasValue.toNat)
    (failed : next.failed = view.failed + after.hasFailure.toNat) : Counted next := by
  refine ⟨?_, ?_, ?_⟩
  · rw [submitted, tickets, List.length_set]
    exact counted.submitted
  · have count := countP_set found after Ticket.hasValue
    rw [unfinished.1, Bool.toNat_false, Nat.add_zero] at count
    rw [processed, tickets, count, counted.processed]
  · have count := countP_set found after Ticket.hasFailure
    rw [unfinished.2, Bool.toNat_false, Nat.add_zero] at count
    rw [failed, tickets, count, counted.failed]

/-- Every step keeps the counts. -/
theorem shift
    (counted : Counted view)
    (told : Told events view)
    (shift : Shift run view event next) : Counted next := by
  cases shift with
  | submit free active found room =>
      refine ⟨?_, ?_, ?_⟩
      · simp [counted.submitted]
      · simp [counted.processed, Ticket.hasValue]
      · simp [counted.failed, Ticket.hasFailure]
  | cancel waits =>
      rcases waits with found | found <;> exact counted.set found ⟨rfl, rfl⟩ rfl rfl rfl rfl
  | @begin worker index item queue found idle shape wanted =>
      have marked := told.marked worker (List.mem_of_getElem? found)
      have waits : .work item ∈ worker.queue := by simp [shape]
      rcases marked.waiting item waits with isTicket | isTicket <;>
        exact counted.set isTicket ⟨rfl, rfl⟩ rfl rfl rfl rfl
  | @finish worker index item found current =>
      have running := (told.marked worker (List.mem_of_getElem? found)).current item current
      exact counted.set running ⟨rfl, rfl⟩ rfl rfl rfl rfl
  | start | warn | refuse | keep | stop | ask | join | drop | leave =>
      exact ⟨counted.submitted, counted.processed, counted.failed⟩

end Counted

/-- Tickets of items that all ended or were taken back. -/
theorem length_eq_of_settled
    {tickets : List (Ticket Value)}
    (settled : ∀ ticket ∈ tickets, (∃ result, ticket = .finished result) ∨ ticket = .cancelled) :
    tickets.length = tickets.countP Ticket.hasValue + tickets.countP Ticket.hasFailure
      + tickets.countP Ticket.isCancelled := by
  induction tickets with
  | nil => rfl
  | cons first rest ih =>
      have others := ih fun ticket member => settled ticket (List.mem_cons_of_mem _ member)
      simp only [List.length_cons, List.countP_cons]
      rcases settled first List.mem_cons_self with ⟨result, rfl⟩ | rfl
      · cases isValue : succeeded result <;>
          simp [Ticket.hasValue, Ticket.hasFailure, Ticket.isCancelled, isValue] <;> omega
      · simp [Ticket.hasValue, Ticket.hasFailure, Ticket.isCancelled]
        omega

/-! ## Results -/

theorem performAll_snoc
    (jobs : List Job)
    (job : Job)
    (state : State) :
    performAll run (jobs ++ [job]) state =
      ((performAll run jobs state).1 ++ [(run job (performAll run jobs state).2).1],
        (run job (performAll run jobs state).2).2) := by
  induction jobs generalizing state with
  | nil => rfl
  | cons first rest ih => simp [performAll, ih]

/-- Jobs that ended, run one after the other from a first state, give their results and the state of
the view. -/
def Performed
    (run : Job → State → Except Failure Value × State)
    (first : State)
    (events : List (Event Job Value))
    (view : View Job Value State) : Prop :=
  performAll run ((ended events).map fun entry => entry.1.job) first =
    ((ended events).map Prod.snd, view.state)

/-- Every step performs no job or the one that it ends. -/
theorem Performed.shift
    {first : State}
    (performed : Performed run first events view)
    (shift : Shift run view event next) : Performed run first (events ++ [event]) next := by
  unfold Performed ended at performed ⊢
  rw [List.filterMap_append]
  cases shift with
  | @finish worker index item found current =>
      have now : List.filterMap Event.ends [.ended item (run item.job view.state).1] =
          [(item, (run item.job view.state).1)] := rfl
      rw [now, List.map_append, List.map_append, List.map_singleton, List.map_singleton,
        performAll_snoc, performed]
  | start | warn | submit | refuse | cancel | keep | stop | ask | join | begin | drop | leave =>
      simpa [List.filterMap_cons, Event.ends] using performed

/-- The jobs that end in a schedule, run one after the other, give their results and its state. -/
theorem Schedule.performed
    {first site : Site Job Value State}
    (schedule : Schedule run first events site) : Performed run first.state events site.view := by
  induction schedule with
  | nil => rfl
  | snoc schedule step ih => exact ih.shift (shift_of_step step)

end Pool
end Fulfilment
