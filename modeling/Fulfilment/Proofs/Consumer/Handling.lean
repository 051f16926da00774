import Fulfilment.Proofs.Consumer.Rounds

/-!
# Handling a batch

While a batch is handled, the items of earlier batches have come to their ends, so what happens in
the pool is about the records of the batch that were given so far.  Once their tickets tell that
they have ended, they were dispatched once each.
-/

namespace Fulfilment
namespace Consumer

theorem of_getElem?_singleton
    {index : Nat}
    {value found : α}
    (isFound : [value][index]? = some found) : index = 0 ∧ value = found := by
  cases index with
  | zero => exact ⟨rfl, Option.some.inj isFound⟩
  | succ index => simp at isFound

theorem exists_list
    {holds : Nat → α → Prop}
    (count : Nat)
    (each : ∀ index < count, ∃ value, holds index value) :
    ∃ values : List α, values.length = count
      ∧ ∀ (index : Nat) (value : α), values[index]? = some value → holds index value := by
  induction count with
  | zero => exact ⟨[], rfl, fun index value impossible => by simp at impossible⟩
  | succ count ih =>
      obtain ⟨values, length, all⟩ := ih fun index inside => each index (Nat.lt_succ_of_lt inside)
      obtain ⟨last, isLast⟩ := each count (Nat.lt_succ_self count)
      refine ⟨values ++ [last], by rw [List.length_append, length, List.length_singleton],
        fun index value found => ?_⟩
      rcases Nat.lt_trichotomy index count with inside | rfl | beyond
      · rw [List.getElem?_append_left (by rw [length]; exact inside)] at found
        exact all index value found
      · rw [List.getElem?_append_right (Nat.le_of_eq length), length, Nat.sub_self] at found
        cases found
        exact isLast
      · rw [List.getElem?_eq_none] at found
        · cases found
        · rw [List.length_append, length, List.length_singleton]
          exact beyond

/-- A pool from which on a batch is handled: what happened before, which records of the batch it was
given, and what has happened since. -/
structure Handling
    (handler : Handler Rec)
    (first : Nat)
    (before : List (Pool.Event Rec Dispatch.Outcome))
    (given : List Rec)
    (events : List (Pool.Event Rec Dispatch.Outcome))
    (view : Pool.View Rec Dispatch.Outcome Service) : Prop where
  regular : Pool.Regular (before ++ events) view
  count : view.tickets.length = first + given.length
  old : ∀ ticket < first, ∃ item result,
    Pool.story before ticket = [.accepted item, .begun item, .ended item result]
  new : ∀ ticket, first ≤ ticket → Pool.story before ticket = []
  accepted : ∀ (index : Nat) (record : Rec), given[index]? = some record →
    .accepted (handler.item (first + index) record) ∈ events

namespace Handling

variable
  {handler : Handler Rec}
  {first : Nat}
  {before events : List (Pool.Event Rec Dispatch.Outcome)}
  {given : List Rec}
  {view next : Pool.View Rec Dispatch.Outcome Service}
  {event : Pool.Event Rec Dispatch.Outcome}

/-- What happens is about the records that were given. -/
theorem only
    {ticket : Nat}
    (handling : Handling handler first before given events view)
    (member : event ∈ events)
    (about : event.ticket? = some ticket) : ∃ index < given.length, ticket = first + index := by
  have inStory : event ∈ Pool.story events ticket := Pool.mem_story.mpr ⟨member, about⟩
  rcases Nat.lt_or_ge ticket first with isOld | isNew
  · obtain ⟨item, result, ended⟩ := handling.old ticket isOld
    rw [(handling.regular.told.of_ended ended).1] at inStory
    cases inStory
  · have inside : ticket < view.tickets.length := by
      rcases Nat.lt_or_ge ticket view.tickets.length with inside | beyond
      · exact inside
      · have inWhole : event ∈ Pool.story (before ++ events) ticket :=
          Pool.mem_story.mpr ⟨List.mem_append_right _ member, about⟩
        rw [handling.regular.told.unknown ticket beyond] at inWhole
        cases inWhole
    rw [handling.count] at inside
    exact ⟨ticket - first, by omega, by omega⟩

/-- A record whose ticket tells a result was dispatched once, to that result. -/
theorem once
    {index : Nat}
    {record : Rec}
    {result : Except Failure Dispatch.Outcome}
    (handling : Handling handler first before given events view)
    (isGiven : given[index]? = some record)
    (told : view.tickets[first + index]? = some (.finished result)) :
    Pool.story events (first + index) =
      [.accepted (handler.item (first + index) record),
        .begun (handler.item (first + index) record),
        .ended (handler.item (first + index) record) result] := by
  obtain ⟨item, -, whole⟩ := handling.regular.told.of_finished told
  have parts : Pool.story (before ++ events) (first + index) =
      Pool.story before (first + index) ++ Pool.story events (first + index) :=
    List.filter_append ..
  rw [parts, handling.new _ (Nat.le_add_right _ _), List.nil_append] at whole
  have member : .accepted (handler.item (first + index) record)
      ∈ Pool.story events (first + index) :=
    Pool.mem_story.mpr ⟨handling.accepted index record isGiven, rfl⟩
  rw [whole] at member ⊢
  obtain rfl : handler.item (first + index) record = item := by simpa using member
  rfl

/-- Records whose tickets tell results were dispatched. -/
theorem dispatched
    {results : List (Except Failure Dispatch.Outcome)}
    (handling : Handling handler first before given events view)
    (length : results.length = given.length)
    (told : ∀ (index : Nat) (result : Except Failure Dispatch.Outcome),
      results[index]? = some result → view.tickets[first + index]? = some (.finished result)) :
    Dispatched handler first given results events where
  length := length
  once index _ result isGiven isResult := handling.once isGiven (told index result isResult)
  only _ _ member about := handling.only member about

/-- The ticket of a record tells that it was taken back only if it was. -/
theorem not_cancelled
    {index : Nat}
    (handling : Handling handler first before given events view)
    (kept : ∀ ticket, .cancelled ticket ∉ events)
    (inside : index < given.length) : view.tickets[first + index]? ≠ some .cancelled := by
  intro cancelled
  have isAccepted := handling.accepted index _ (List.getElem?_eq_getElem inside)
  have isStory :=
    handling.regular.told.of_ticket (List.mem_append_right before isAccepted) cancelled
  have member := (Pool.mem_story.mp (isStory.cancelled_iff.mp rfl)).1
  rcases List.mem_append.mp member with isOld | isNew
  · have inStory : .cancelled (first + index) ∈ Pool.story before (first + index) :=
      Pool.mem_story.mpr ⟨isOld, rfl⟩
    rw [handling.new _ (Nat.le_add_right _ _)] at inStory
    cases inStory
  · exact kept _ isNew

/-- Once a pool has stopped, all records that it was given were dispatched, if none was taken
back. -/
theorem dispatched_of_stopped
    (handling : Handling handler first before given events view)
    (free : view.control = .free)
    (inactive : view.active = false)
    (kept : ∀ ticket, .cancelled ticket ∉ events) :
    ∃ results, Dispatched handler first given results events := by
  have each (index : Nat) (inside : index < given.length) :
      ∃ result, view.tickets[first + index]? = some (.finished result) := by
    have isAccepted := handling.accepted index _ (List.getElem?_eq_getElem inside)
    rcases handling.regular.settled free inactive (List.mem_append_right before isAccepted)
      with finished | cancelled
    · exact finished
    · exact absurd cancelled (handling.not_cancelled kept inside)
  obtain ⟨results, length, told⟩ := exists_list given.length each
  exact ⟨results, handling.dispatched length told⟩

/-- After all records of a batch have ended the next one begins. -/
theorem renew
    {results : List (Except Failure Dispatch.Outcome)}
    (handling : Handling handler first before given events view)
    (length : results.length = given.length)
    (told : ∀ (index : Nat) (result : Except Failure Dispatch.Outcome),
      results[index]? = some result → view.tickets[first + index]? = some (.finished result)) :
    Handling handler (first + given.length) (before ++ events) [] [] view where
  regular := by
    rw [List.append_nil]
    exact handling.regular
  count := handling.count
  old ticket inside := by
    have finished : ∃ result, view.tickets[ticket]? = some (.finished result) := by
      rcases Nat.lt_or_ge ticket first with isOld | isNew
      · obtain ⟨item, result, ended⟩ := handling.old ticket isOld
        exact ⟨result, (handling.regular.told.of_ended ended).2⟩
      · have within : ticket - first < results.length := by omega
        have isResult := told (ticket - first) _ (List.getElem?_eq_getElem within)
        rw [Nat.add_sub_cancel' isNew] at isResult
        exact ⟨_, isResult⟩
    obtain ⟨result, isFinished⟩ := finished
    obtain ⟨item, -, ended⟩ := handling.regular.told.of_finished isFinished
    exact ⟨item, result, ended⟩
  new ticket beyond := by
    refine handling.regular.told.unknown ticket ?_
    rw [handling.count]
    exact beyond
  accepted index record impossible := by simp at impossible

variable {run : Rec → Service → Except Failure Dispatch.Outcome × Service}

/-- A step that gives nothing to the pool. -/
theorem extend
    (handling : Handling handler first before given events view)
    (shift : Pool.Shift run view event next)
    (length : next.tickets.length = view.tickets.length) :
    Handling handler first before given (events ++ [event]) next where
  regular := by
    rw [← List.append_assoc]
    exact handling.regular.shift shift
  count := length.trans handling.count
  old := handling.old
  new := handling.new
  accepted index record isGiven := List.mem_append_left _ (handling.accepted index record isGiven)

/-- A record that is given to the pool has the next ticket. -/
theorem give
    {ticket : Nat}
    {record : Rec}
    (handling : Handling handler first before given events view)
    (shift : Pool.Shift run view (.accepted (handler.item ticket record)) next) :
    ticket = first + given.length
      ∧ Handling handler first before (given ++ [record])
        (events ++ [.accepted (handler.item ticket record)]) next := by
  obtain ⟨isTicket, tickets, -, -⟩ := shift.of_accepted
  have last : ticket = first + given.length := isTicket.trans handling.count
  refine ⟨last, ?_, ?_, handling.old, handling.new, fun index other isGiven => ?_⟩
  · rw [← List.append_assoc]
    exact handling.regular.shift shift
  · rw [tickets, List.length_append, handling.count, List.length_append, List.length_singleton,
      List.length_singleton, Nat.add_assoc]
  · rcases Nat.lt_or_ge index given.length with inside | beyond
    · rw [List.getElem?_append_left inside] at isGiven
      exact List.mem_append_left _ (handling.accepted index other isGiven)
    · rw [List.getElem?_append_right beyond] at isGiven
      obtain ⟨isLast, rfl⟩ := of_getElem?_singleton isGiven
      have isIndex : index = given.length := by omega
      rw [last, isIndex]
      exact List.mem_append_right _ (List.mem_singleton.mpr rfl)

/-- A ticket that tells a result goes on to tell it. -/
theorem finished_of_extend
    {ticket : Nat}
    {result : Except Failure Dispatch.Outcome}
    (handling : Handling handler first before given events view)
    (shift : Pool.Shift run view event next)
    (told : view.tickets[ticket]? = some (.finished result)) :
    next.tickets[ticket]? = some (.finished result) := by
  obtain ⟨item, -, ended⟩ := handling.regular.told.of_finished told
  exact ((handling.regular.shift shift).told.of_ended ended).2

/-- Only what a pool is seen to be counts. -/
theorem withState
    (handling : Handling handler first before given events view)
    (state : Service) : Handling handler first before given events { view with state } where
  regular := handling.regular.withState state
  count := handling.count
  old := handling.old
  new := handling.new
  accepted := handling.accepted

end Handling

end Consumer
end Fulfilment
