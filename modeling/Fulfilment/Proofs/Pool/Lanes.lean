import Mathlib.Data.List.Nodup
import Fulfilment.Proofs.Pool.Staff

/-!
# Lanes of a schedule

Accepted items have the tickets 0, 1, 2, and so on.  The items that are assigned to a worker pass
through its lane in the order in which they were accepted: those it is done with, then the item
at hand, then those in its queue.  So when a worker takes an item, it is done with every item of
the same key that was accepted earlier.
-/

namespace Fulfilment
namespace Pool

/-- The item that an event accepts. -/
def Event.accepts : Event Job Value → Option (Item Job)
  | .accepted item => some item
  | _ => none

/-- The item that a worker is done with by an event. -/
def Event.handles : Event Job Value → Option (Item Job)
  | .ended item _ | .dropped item => some item
  | _ => none

/-- The accepted items, in order. -/
def accepted (events : List (Event Job Value)) : List (Item Job) :=
  events.filterMap Event.accepts

/-- The items that the workers are done with, in order. -/
def handled (events : List (Event Job Value)) : List (Item Job) :=
  events.filterMap Event.handles

/-- The items that are assigned to the worker of an index, among so many workers. -/
def assigned
    (workerCount index : Nat)
    (items : List (Item Job)) : List (Item Job) :=
  items.filter fun item => workerIndex item.key workerCount = index

/-- The item of an entry. -/
def Entry.item? : Entry Job → Option (Item Job)
  | .work item => some item
  | .stop => none

/-- The items that a worker has: the one at hand, and behind it those in the queue. -/
def Worker.items (worker : Worker Job) : List (Item Job) :=
  worker.current.toList ++ worker.queue.filterMap Entry.item?

/-- The items that the worker of an index has. -/
def lane
    (workers : List (Worker Job))
    (index : Nat) : List (Item Job) :=
  match workers[index]? with
  | some worker => worker.items
  | none => []

variable {Job Value State : Type}

@[simp] theorem Entry.item?_work (item : Item Job) : (Entry.work item).item? = some item := rfl

@[simp] theorem Entry.item?_stop : (Entry.stop : Entry Job).item? = none := rfl

@[simp] theorem accepted_append (front back : List (Event Job Value)) :
    accepted (front ++ back) = accepted front ++ accepted back :=
  List.filterMap_append

@[simp] theorem handled_append (front back : List (Event Job Value)) :
    handled (front ++ back) = handled front ++ handled back :=
  List.filterMap_append

theorem accepted_singleton (event : Event Job Value) :
    accepted [event] = event.accepts.toList := by
  unfold accepted
  cases isAccepted : event.accepts <;> simp [isAccepted]

theorem handled_singleton (event : Event Job Value) :
    handled [event] = event.handles.toList := by
  unfold handled
  cases isHandled : event.handles <;> simp [isHandled]

theorem mem_accepted
    {events : List (Event Job Value)}
    {item : Item Job} : item ∈ accepted events ↔ .accepted item ∈ events := by
  unfold accepted
  rw [List.mem_filterMap]
  constructor
  · rintro ⟨event, member, isAccepted⟩
    cases event <;> cases isAccepted
    exact member
  · intro member
    exact ⟨_, member, rfl⟩

theorem mem_handled
    {events : List (Event Job Value)}
    {item : Item Job} :
    item ∈ handled events ↔ (∃ result, .ended item result ∈ events) ∨ .dropped item ∈ events := by
  unfold handled
  rw [List.mem_filterMap]
  constructor
  · rintro ⟨event, member, isHandled⟩
    cases event <;> cases isHandled
    · exact .inr member
    · exact .inl ⟨_, member⟩
  · rintro (⟨result, member⟩ | member)
    · exact ⟨_, member, rfl⟩
    · exact ⟨_, member, rfl⟩

@[simp] theorem assigned_append
    (workerCount index : Nat)
    (front back : List (Item Job)) :
    assigned workerCount index (front ++ back) =
      assigned workerCount index front ++ assigned workerCount index back :=
  List.filter_append ..

theorem mem_assigned
    {workerCount index : Nat}
    {items : List (Item Job)}
    {item : Item Job} :
    item ∈ assigned workerCount index items ↔
      item ∈ items ∧ workerIndex item.key workerCount = index := by
  simp [assigned]

theorem lane_of_getElem?
    {workers : List (Worker Job)}
    {index : Nat}
    {worker : Worker Job}
    (found : workers[index]? = some worker) : lane workers index = worker.items := by
  simp [lane, found]

theorem mem_items
    {worker : Worker Job}
    {item : Item Job} :
    item ∈ worker.items ↔ worker.current = some item ∨ .work item ∈ worker.queue := by
  unfold Worker.items
  rw [List.mem_append, Option.mem_toList, List.mem_filterMap]
  refine or_congr Iff.rfl ⟨?_, fun member => ⟨_, member, rfl⟩⟩
  rintro ⟨entry, member, isItem⟩
  cases entry <;> cases isItem
  exact member

theorem mem_lane
    {workers : List (Worker Job)}
    {index : Nat}
    {item : Item Job} :
    item ∈ lane workers index ↔ ∃ worker, workers[index]? = some worker ∧ item ∈ worker.items := by
  unfold lane
  cases workers[index]? <;> simp

/-- A worker that has no items has an empty lane. -/
theorem lane_eq_nil
    {workers : List (Worker Job)}
    (idle : ∀ worker ∈ workers, worker.items = [])
    (index : Nat) : lane workers index = [] := by
  unfold lane
  cases found : workers[index]? with
  | none => rfl
  | some worker => exact idle worker (List.mem_of_getElem? found)

theorem lane_set
    {workers : List (Worker Job)}
    {index : Nat}
    {worker : Worker Job}
    (found : workers[index]? = some worker)
    (changed : Worker Job)
    (other : Nat) :
    lane (workers.set index changed) other =
      if other = index then changed.items else lane workers other := by
  have inside := (List.getElem?_eq_some_iff.mp found).1
  unfold lane
  rw [List.getElem?_set]
  by_cases same : index = other
  · subst same
    simp [inside]
  · rw [if_neg same, if_neg fun equal => same equal.symm]

/-- The accepted items of a schedule, and where they are. -/
structure Lined
    (events : List (Event Job Value))
    (view : View Job Value State) : Prop where
  numbered : (accepted events).map Item.ticket = List.range view.tickets.length
  channel : ∀ index, assigned view.workerCount index (accepted events) =
    assigned view.workerCount index (handled events) ++ lane view.workers index

namespace Lined

variable
  {run : Job → State → Except Failure Value × State}
  {events : List (Event Job Value)}
  {view next : View Job Value State}
  {event : Event Job Value}
  {item : Item Job}
  {index : Nat}

/-- An item in a lane was accepted, and is assigned to the worker of the lane. -/
theorem of_mem_lane
    (lined : Lined events view)
    (member : item ∈ lane view.workers index) :
    item ∈ accepted events ∧ workerIndex item.key view.workerCount = index := by
  rw [← mem_assigned, lined.channel index]
  exact List.mem_append_right _ member

/-- A step that accepts nothing keeps the lanes if each loses no more than what is done. -/
theorem pass
    (lined : Lined events view)
    (quiet : event.accepts = none)
    (workerCount : next.workerCount = view.workerCount)
    (tickets : next.tickets.length = view.tickets.length)
    (lanes : ∀ index, lane view.workers index =
      assigned view.workerCount index event.handles.toList ++ lane next.workers index) :
    Lined (events ++ [event]) next where
  numbered := by
    rw [accepted_append, accepted_singleton, quiet, Option.toList_none, List.append_nil, tickets]
    exact lined.numbered
  channel index := by
    rw [accepted_append, accepted_singleton, quiet, Option.toList_none, List.append_nil,
      handled_append, handled_singleton, workerCount, assigned_append, List.append_assoc,
      ← lanes index]
    exact lined.channel index

/-- A step of one worker that is done with the first of its items, or with none. -/
theorem advance
    {worker changed : Worker Job}
    (lined : Lined events view)
    (quiet : event.accepts = none)
    (found : view.workers[index]? = some worker)
    (items : worker.items = event.handles.toList ++ changed.items)
    (workers : next.workers = view.workers.set index changed)
    (workerCount : next.workerCount = view.workerCount)
    (tickets : next.tickets.length = view.tickets.length) : Lined (events ++ [event]) next := by
  refine lined.pass quiet workerCount tickets fun other => ?_
  have own (item : Item Job) (isHandled : item ∈ event.handles.toList) :
      workerIndex item.key view.workerCount = index := by
    refine (lined.of_mem_lane ?_).2
    rw [lane_of_getElem? found, items]
    exact List.mem_append_left _ isHandled
  rw [workers, lane_set found]
  by_cases same : other = index
  · subst same
    rw [if_pos rfl, lane_of_getElem? found, items]
    congr 1
    exact (List.filter_eq_self.mpr fun item isHandled => decide_eq_true (own item isHandled)).symm
  · rw [if_neg same]
    have none : assigned view.workerCount other event.handles.toList = [] := by
      refine List.filter_eq_nil_iff.mpr fun item isHandled isOther => same ?_
      rw [← own item isHandled, of_decide_eq_true isOther]
    rw [none, List.nil_append]

/-- Every step keeps the lanes. -/
theorem shift
    (lined : Lined events view)
    (staffed : Staffed view)
    (shift : Shift run view event next) : Lined (events ++ [event]) next := by
  cases shift with
  | start free inactive =>
      refine lined.pass rfl rfl rfl fun index => ?_
      have before : lane view.workers index = [] := by
        refine lane_eq_nil (fun worker member => ?_) index
        obtain ⟨place, found⟩ := List.getElem?_of_mem member
        obtain ⟨-, queue, current⟩ :=
          (staffed.sound place worker found).stopped (staffed.rested free inactive worker member)
        simp [Worker.items, queue, current]
      have after : lane ((List.range view.workerCount).map fun index => ({ index } : Worker Job))
          index = [] := by
        refine lane_eq_nil (fun worker member => ?_) index
        obtain ⟨number, -, rfl⟩ := List.mem_map.mp member
        rfl
      rw [before, after]
      rfl
  | @submit worker key job free active found room =>
      refine ⟨?_, fun index => ?_⟩
      · rw [accepted_append, List.map_append, lined.numbered]
        simp [accepted_singleton, Event.accepts, List.range_succ]
      · rw [accepted_append, accepted_singleton, handled_append, handled_singleton,
          assigned_append, assigned_append, lined.channel index, lane_set found]
        by_cases own : index = workerIndex key view.workerCount
        · subst own
          rw [if_pos rfl, lane_of_getElem? found]
          simp [Event.accepts, Event.handles, assigned, Worker.items]
        · have other : workerIndex key view.workerCount ≠ index := fun same => own same.symm
          rw [if_neg own]
          simp [Event.accepts, Event.handles, assigned, other]
  | ask stopping found room =>
      refine lined.advance rfl found ?_ rfl rfl rfl
      simp [Event.handles, Worker.items]
  | begin found idle shape wanted =>
      refine lined.advance rfl found ?_ rfl rfl List.length_set
      simp [Event.handles, Worker.items, idle, shape]
  | drop found idle shape unwanted =>
      refine lined.advance rfl found ?_ rfl rfl rfl
      simp [Event.handles, Worker.items, idle, shape]
  | leave found idle shape =>
      refine lined.advance rfl found ?_ rfl rfl rfl
      simp [Event.handles, Worker.items, List.filterMap_cons, idle, shape]
  | finish found current =>
      refine lined.advance rfl found ?_ rfl rfl List.length_set
      simp [Event.handles, Worker.items, current]
  | cancel waits => exact lined.pass rfl rfl List.length_set fun index => rfl
  | warn | refuse | keep | stop | join => exact lined.pass rfl rfl rfl fun index => rfl

/-- Tickets grow in the order in which items were accepted. -/
theorem pairwise (lined : Lined events view) :
    (accepted events).Pairwise fun first second => first.ticket < second.ticket := by
  rw [← List.pairwise_map, lined.numbered]
  exact List.pairwise_lt_range

/-- Accepted items with one ticket are one item. -/
theorem eq_of_ticket_eq
    {other : Item Job}
    (lined : Lined events view)
    (member : item ∈ accepted events)
    (otherMember : other ∈ accepted events)
    (same : item.ticket = other.ticket) : item = other := by
  have distinct : ((accepted events).map Item.ticket).Nodup := by
    rw [lined.numbered]
    exact List.nodup_range
  exact List.inj_on_of_nodup_map distinct member otherMember same

/-- Tickets grow along what the worker of an index is done with and has. -/
theorem sorted
    (lined : Lined events view)
    (index : Nat) :
    (assigned view.workerCount index (handled events) ++ lane view.workers index).Pairwise
      fun first second => first.ticket < second.ticket := by
  rw [← lined.channel index]
  exact lined.pairwise.filter _

/-- Items in different lanes have different tickets. -/
theorem ticket_ne
    {other : Item Job}
    {otherIndex : Nat}
    (lined : Lined events view)
    (member : item ∈ lane view.workers index)
    (otherMember : other ∈ lane view.workers otherIndex)
    (apart : otherIndex ≠ index) : other.ticket ≠ item.ticket := by
  intro same
  obtain ⟨isAccepted, own⟩ := lined.of_mem_lane member
  obtain ⟨otherAccepted, otherOwn⟩ := lined.of_mem_lane otherMember
  obtain rfl := lined.eq_of_ticket_eq otherAccepted isAccepted same
  exact apart (otherOwn.symm.trans own)

/-- Items behind the first of a lane have other tickets than it. -/
theorem ticket_ne_of_rest
    {other : Item Job}
    {rest : List (Item Job)}
    (lined : Lined events view)
    (shape : lane view.workers index = item :: rest)
    (member : other ∈ rest) : other.ticket ≠ item.ticket := by
  have sorted := lined.sorted index
  rw [shape] at sorted
  have ordered := (List.pairwise_cons.mp (List.pairwise_append.mp sorted).2.1).1
  exact Nat.ne_of_gt (ordered other member)

/-- The worker of a lane is done with what was accepted before the first item there under the same
key. -/
theorem handled_of_lt
    {other : Item Job}
    {rest : List (Item Job)}
    (lined : Lined events view)
    (shape : lane view.workers index = item :: rest)
    (isAccepted : other ∈ accepted events)
    (key : other.key = item.key)
    (earlier : other.ticket < item.ticket) : other ∈ handled events := by
  have inLane : item ∈ lane view.workers index := by
    rw [shape]
    exact List.mem_cons_self
  have own := (lined.of_mem_lane inLane).2
  have member : other ∈ assigned view.workerCount index (accepted events) :=
    mem_assigned.mpr ⟨isAccepted, by rw [key, own]⟩
  have sorted := lined.sorted index
  rw [lined.channel index] at member
  rw [shape] at sorted member
  rcases List.mem_append.mp member with isHandled | behind
  · exact (mem_assigned.mp isHandled).1
  · have ordered := (List.pairwise_cons.mp (List.pairwise_append.mp sorted).2.1).1
    rcases List.mem_cons.mp behind with rfl | later
    · exact absurd earlier (Nat.lt_irrefl _)
    · exact absurd earlier (Nat.lt_asymm (ordered other later))

theorem accepted_of_mem_items
    {worker : Worker Job}
    (lined : Lined events view)
    (found : view.workers[index]? = some worker)
    (member : item ∈ worker.items) : .accepted item ∈ events := by
  rw [← lane_of_getElem? found] at member
  exact mem_accepted.mp (lined.of_mem_lane member).1

/-- What the workers are done with was accepted. -/
theorem accepted_of_handled
    (lined : Lined events view)
    (isHandled : item ∈ handled events) : .accepted item ∈ events := by
  have own := mem_assigned.mpr ⟨isHandled, (rfl : workerIndex item.key view.workerCount = _)⟩
  have member := List.mem_append_left
    (lane view.workers (workerIndex item.key view.workerCount)) own
  rw [← lined.channel] at member
  exact mem_accepted.mp (mem_assigned.mp member).1

/-- An accepted item with a smaller ticket than one that was accepted by then was accepted by then
too. -/
theorem accepted_of_lt
    {earlier later : List (Event Job Value)}
    {other : Item Job}
    (lined : Lined (earlier ++ later) view)
    (isAccepted : .accepted item ∈ earlier)
    (otherAccepted : .accepted other ∈ earlier ++ later)
    (before : other.ticket < item.ticket) : .accepted other ∈ earlier := by
  have sorted := lined.pairwise
  rw [accepted_append] at sorted
  rcases List.mem_append.mp otherAccepted with isEarlier | isLater
  · exact isEarlier
  · have after := (List.pairwise_append.mp sorted).2.2 item (mem_accepted.mpr isAccepted) other
      (mem_accepted.mpr isLater)
    exact absurd before (Nat.lt_asymm after)

/-- Items that run at the same time have different keys. -/
theorem apart
    {other : Nat}
    {worker another : Worker Job}
    {beside : Item Job}
    (lined : Lined events view)
    (found : view.workers[index]? = some worker)
    (otherFound : view.workers[other]? = some another)
    (current : worker.current = some item)
    (otherCurrent : another.current = some beside)
    (key : item.key = beside.key) : index = other := by
  have member : item ∈ lane view.workers index := by
    rw [lane_of_getElem? found]
    exact mem_items.mpr (.inl current)
  have otherMember : beside ∈ lane view.workers other := by
    rw [lane_of_getElem? otherFound]
    exact mem_items.mpr (.inl otherCurrent)
  rw [← (lined.of_mem_lane member).2, ← (lined.of_mem_lane otherMember).2, key]

/-- The workers are done with an accepted item, or one of them has it. -/
theorem handled_or_mem_lane
    (lined : Lined events view)
    (isAccepted : .accepted item ∈ events) :
    item ∈ handled events ∨ item ∈ lane view.workers (workerIndex item.key view.workerCount) := by
  have isAssigned : item ∈ assigned view.workerCount (workerIndex item.key view.workerCount)
      (accepted events) := mem_assigned.mpr ⟨mem_accepted.mpr isAccepted, rfl⟩
  rw [lined.channel] at isAssigned
  rcases List.mem_append.mp isAssigned with isHandled | inLane
  · exact .inl (mem_assigned.mp isHandled).1
  · exact .inr inLane

/-- The workers of a pool that has stopped are done with every item. -/
theorem handled_of_rested
    (lined : Lined events view)
    (staffed : Staffed view)
    (free : view.control = .free)
    (inactive : view.active = false)
    (isAccepted : .accepted item ∈ events) : item ∈ handled events := by
  rcases lined.handled_or_mem_lane isAccepted with isHandled | inLane
  · exact isHandled
  · rw [lane_eq_nil (fun worker member => ?_)] at inLane
    · cases inLane
    · obtain ⟨index, found⟩ := List.getElem?_of_mem member
      obtain ⟨-, queue, current⟩ :=
        (staffed.sound index worker found).stopped (staffed.rested free inactive worker member)
      simp [Worker.items, queue, current]

end Lined

/-- An item that begins is the first in its lane. -/
theorem Shift.lane_of_begun
    {run : Job → State → Except Failure Value × State}
    {view next : View Job Value State}
    {item : Item Job}
    (shift : Shift run view (.begun item) next) :
    ∃ index rest, lane view.workers index = item :: rest := by
  cases shift with
  | @begin worker index _ queue found idle shape wanted =>
      refine ⟨index, queue.filterMap Entry.item?, ?_⟩
      simp [lane_of_getElem? found, Worker.items, idle, shape]

end Pool
end Fulfilment
