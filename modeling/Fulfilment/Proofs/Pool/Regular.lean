import Fulfilment.Proofs.Pool.Results

/-!
# What schedules keep

The workers, the lanes, the stories and the counts of a pool are as they should be at every moment
of a schedule.  So once the pool has stopped, every item has ended or was taken back, and the
counts add up.
-/

namespace Fulfilment
namespace Pool

variable
  {Job Value State : Type}
  {run : Job → State → Except Failure Value × State}
  {events : List (Event Job Value)}
  {view : View Job Value State}
  {first site : Site Job Value State}
  {event : Event Job Value}
  {item : Item Job}

/-- What every step of a schedule keeps. -/
structure Regular
    (events : List (Event Job Value))
    (view : View Job Value State) : Prop where
  staffed : Staffed view
  lined : Lined events view
  told : Told events view
  counted : Counted view

theorem Regular.shift
    {next : View Job Value State}
    (regular : Regular events view)
    (shift : Shift run view event next) : Regular (events ++ [event]) next where
  staffed := regular.staffed.shift shift
  lined := regular.lined.shift regular.staffed shift
  told := regular.told.shift regular.lined shift
  counted := regular.counted.shift regular.told shift

/-- The state that jobs work on does not count. -/
theorem Regular.withState
    (regular : Regular events view)
    (state : State) : Regular events { view with state } := by
  obtain ⟨⟨sound, manned, inactive, rested, room⟩, ⟨numbered, channel⟩, ⟨known, unknown, marked⟩,
    ⟨submitted, processed, failed⟩⟩ := regular
  exact ⟨⟨sound, manned, inactive, rested, room⟩, ⟨numbered, channel⟩, ⟨known, unknown, marked⟩,
    ⟨submitted, processed, failed⟩⟩

theorem create?_eq_ok
    {name : String}
    {workerCount capacity : Int}
    {pool : Pool Job Value}
    (created : create? name workerCount capacity = .ok pool) :
    0 < workerCount.toNat ∧ pool = { name, workerCount := workerCount.toNat, capacity } := by
  unfold create? at created
  split at created
  · cases created
  · next enough =>
      cases created
      exact ⟨by omega, rfl⟩

theorem regular_of_create?
    {name : String}
    {workerCount capacity : Int}
    {pool : Pool Job Value}
    (created : create? name workerCount capacity = .ok pool)
    (state : State) :
    Regular [] (⟨pool, .free, state⟩ : Site Job Value State).view := by
  obtain ⟨-, rfl⟩ := create?_eq_ok created
  refine ⟨⟨?_, ?_, ?_, ?_, ?_⟩, ⟨rfl, ?_⟩, ⟨?_, ?_, ?_⟩, ⟨rfl, rfl, rfl⟩⟩
  all_goals simp [Site.view, lane, accepted, handled, assigned, story]

theorem Schedule.regular
    (schedule : Schedule run first events site)
    (regular : Regular [] first.view) : Regular events site.view := by
  induction schedule with
  | nil => exact regular
  | snoc schedule step ih => exact ih.shift (shift_of_step step)

/-- After a pool has stopped, an accepted item has ended or was taken back. -/
theorem Regular.settled
    (regular : Regular events view)
    (free : view.control = .free)
    (inactive : view.active = false)
    (isAccepted : .accepted item ∈ events) :
    (∃ result, view.tickets[item.ticket]? = some (.finished result))
      ∨ view.tickets[item.ticket]? = some .cancelled :=
  (regular.told.ended_of_handled isAccepted
    (regular.lined.handled_of_rested regular.staffed free inactive isAccepted)).2

/-- After a pool has stopped, its counts add up. -/
theorem Regular.balanced
    (regular : Regular events view)
    (free : view.control = .free)
    (inactive : view.active = false) :
    view.submitted = view.processed + view.failed + view.tickets.countP Ticket.isCancelled := by
  rw [regular.counted.submitted, regular.counted.processed, regular.counted.failed]
  refine length_eq_of_settled fun ticket member => ?_
  obtain ⟨index, found⟩ := List.getElem?_of_mem member
  obtain ⟨item, rfl, isStory⟩ := regular.told.known index ticket found
  have isAccepted := (mem_story.mp isStory.accepted_mem).1
  rcases regular.settled free inactive isAccepted with ⟨result, finished⟩ | cancelled
  · exact .inl ⟨result, Option.some.inj (found.symm.trans finished)⟩
  · exact .inr (Option.some.inj (found.symm.trans cancelled))

end Pool
end Fulfilment
