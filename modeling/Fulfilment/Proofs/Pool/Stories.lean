import Fulfilment.Proofs.Pool.Lanes

/-!
# Stories of items

All that is ever seen of an item is one of four stories: it was accepted; it was accepted and
begun; it was accepted, begun and ended, once each; or it was accepted and taken back before a
worker began it, and never begun.  The ticket of an item tells which story it is, and the counts
of the pool are those of the tickets.
-/

namespace Fulfilment
namespace Pool

/-- The ticket of the item that an event is about. -/
def Event.ticket? : Event Job Value → Option Nat
  | .accepted item | .begun item | .dropped item | .ended item _ => some item.ticket
  | .cancelled ticket => some ticket
  | .started | .refused _ | .kept _ | .stopping | .asked _ | .stopped | .left _ => none

/-- What was seen of the item of a ticket. -/
def story
    (events : List (Event Job Value))
    (ticket : Nat) : List (Event Job Value) :=
  events.filter fun event => event.ticket? = some ticket

/-- The stories of an item, each with what its ticket tells. -/
inductive Story (item : Item Job) : List (Event Job Value) → Ticket Value → Prop where
  | waiting : Story item [.accepted item] .pending
  | recalled {later : List (Event Job Value)}
      (only : ∀ event ∈ later, event = .cancelled item.ticket ∨ event = .dropped item) :
      Story item (.accepted item :: .cancelled item.ticket :: later) .cancelled
  | running : Story item [.accepted item, .begun item] .running
  | finished (result : Except Failure Value) :
      Story item [.accepted item, .begun item, .ended item result] (.finished result)

variable {Job Value State : Type}

theorem story_snoc
    (events : List (Event Job Value))
    (event : Event Job Value)
    (ticket : Nat) :
    story (events ++ [event]) ticket =
      if event.ticket? = some ticket then story events ticket ++ [event]
      else story events ticket := by
  unfold story
  rw [List.filter_append]
  by_cases about : event.ticket? = some ticket <;> simp [about]

theorem mem_story
    {events : List (Event Job Value)}
    {event : Event Job Value}
    {ticket : Nat} :
    event ∈ story events ticket ↔ event ∈ events ∧ event.ticket? = some ticket := by
  simp [story]

namespace Story

variable {item other : Item Job} {events : List (Event Job Value)} {ticket : Ticket Value}

/-- The first event of a story is that its item was accepted. -/
theorem accepted_mem (story : Story item events ticket) : .accepted item ∈ events := by
  cases story <;> exact List.mem_cons_self

/-- A story is that of one item. -/
theorem eq_of_accepted_mem
    (story : Story item events ticket)
    (member : .accepted other ∈ events) : other = item := by
  cases story with
  | waiting | running | finished => simpa using member
  | recalled only =>
      rcases List.mem_cons.mp member with same | later
      · exact Event.accepted.inj same
      · rcases List.mem_cons.mp later with impossible | later
        · cases impossible
        · rcases only _ later with impossible | impossible <;> cases impossible

theorem cancel
    (story : Story item events ticket)
    (waits : ticket = .pending ∨ ticket = .cancelled) :
    Story item (events ++ [.cancelled item.ticket]) .cancelled := by
  cases story with
  | waiting => exact .recalled (fun event impossible => (nomatch impossible))
  | recalled only =>
      refine .recalled fun event member => ?_
      rcases List.mem_append.mp member with earlier | last
      · exact only event earlier
      · exact .inl (List.mem_singleton.mp last)
  | running | finished => rcases waits with impossible | impossible <;> cases impossible

theorem drop (story : Story item events .cancelled) :
    Story item (events ++ [.dropped item]) .cancelled := by
  cases story with
  | recalled only =>
      refine .recalled fun event member => ?_
      rcases List.mem_append.mp member with earlier | last
      · exact only event earlier
      · exact .inr (List.mem_singleton.mp last)

theorem begin (story : Story item events .pending) :
    Story item (events ++ [.begun item]) .running := by
  cases story
  exact .running

theorem finish
    (story : Story item events .running)
    (result : Except Failure Value) :
    Story item (events ++ [.ended item result]) (.finished result) := by
  cases story
  exact .finished result

/-- An item that a worker is done with has ended or was taken back. -/
theorem of_handled
    (story : Story item events ticket)
    (isHandled : item ∈ handled events) :
    (∃ result, ticket = .finished result) ∨ ticket = .cancelled := by
  cases story with
  | waiting | running => simp [handled, Event.handles] at isHandled
  | recalled => exact .inr rfl
  | finished result => exact .inl ⟨result, rfl⟩

/-- A ticket tells that its item was cancelled just when it was. -/
theorem cancelled_iff (story : Story item events ticket) :
    ticket = .cancelled ↔ .cancelled item.ticket ∈ events := by
  cases story <;> simp

theorem finished_iff
    {result : Except Failure Value}
    (story : Story item events ticket) :
    ticket = .finished result ↔ .ended item result ∈ events := by
  cases story with
  | waiting | running => simp
  | recalled only =>
      refine ⟨fun impossible => (nomatch impossible), fun member => ?_⟩
      rcases List.mem_cons.mp (List.mem_of_ne_of_mem (by simp) member) with impossible | later
      · cases impossible
      · rcases only _ later with impossible | impossible <;> cases impossible
  | finished other => simp [eq_comm]

/-- The story of an item that has ended. -/
theorem of_finished
    {result : Except Failure Value}
    (story : Story item events (.finished result)) :
    events = [.accepted item, .begun item, .ended item result] := by
  cases story
  rfl

/-- After an item has ended its story does not go on. -/
theorem eq_nil_of_ended
    {later : List (Event Job Value)}
    {result : Except Failure Value}
    (story : Story item ([.accepted other, .begun other, .ended other result] ++ later) ticket) :
    later = [] ∧ ticket = .finished result := by
  generalize whole : [.accepted other, .begun other, .ended other result] ++ later = all at story
  cases story <;> cases whole
  exact ⟨rfl, rfl⟩

end Story

/-! ## What a worker has, by ticket -/

/-- The tickets of what a worker has tell where it is. -/
structure Worker.Marked
    (tickets : List (Ticket Value))
    (worker : Worker Job) : Prop where
  waiting : ∀ item, .work item ∈ worker.queue →
    tickets[item.ticket]? = some .pending ∨ tickets[item.ticket]? = some .cancelled
  current : ∀ item, worker.current = some item → tickets[item.ticket]? = some .running

namespace Worker.Marked

variable
  {worker : Worker Job}
  {tickets changed : List (Ticket Value)}
  {item : Item Job}
  {queue : List (Entry Job)}

/-- A new worker has nothing. -/
theorem new
    (tickets : List (Ticket Value))
    (index : Nat) : ({ index } : Worker Job).Marked tickets where
  waiting _ waits := by cases waits
  current _ current := by cases current

/-- A change that leaves the tickets of what a worker has. -/
theorem congr
    (marked : worker.Marked tickets)
    (same : ∀ item ∈ worker.items, changed[item.ticket]? = tickets[item.ticket]?) :
    worker.Marked changed := by
  refine ⟨fun item waits => ?_, fun item current => ?_⟩
  · rw [same item (mem_items.mpr (.inr waits))]
    exact marked.waiting item waits
  · rw [same item (mem_items.mpr (.inl current))]
    exact marked.current item current

/-- Any item that a worker has was given a ticket. -/
theorem lt_length
    (marked : worker.Marked tickets)
    (member : item ∈ worker.items) : item.ticket < tickets.length := by
  rcases mem_items.mp member with current | waits
  · exact (List.getElem?_eq_some_iff.mp (marked.current item current)).1
  · rcases marked.waiting item waits with pending | cancelled
    · exact (List.getElem?_eq_some_iff.mp pending).1
    · exact (List.getElem?_eq_some_iff.mp cancelled).1

/-- A worker that loses entries of its queue. -/
theorem rest
    (marked : worker.Marked tickets)
    (sublist : ∀ entry ∈ queue, entry ∈ worker.queue)
    (stopped : Bool) : ({ worker with queue, stopped } : Worker Job).Marked tickets :=
  ⟨fun item waits => marked.waiting item (sublist _ waits), marked.current⟩

theorem cancel
    {ticket : Nat}
    (marked : worker.Marked tickets)
    (waits : tickets[ticket]? = some .pending ∨ tickets[ticket]? = some .cancelled) :
    worker.Marked (tickets.set ticket .cancelled) := by
  have inside : ticket < tickets.length := by
    rcases waits with found | found <;> exact (List.getElem?_eq_some_iff.mp found).1
  refine ⟨fun item waiting => ?_, fun item current => ?_⟩
  · by_cases same : ticket = item.ticket
    · subst same
      exact .inr (List.getElem?_set_self inside)
    · rw [List.getElem?_set_ne same]
      exact marked.waiting item waiting
  · have running := marked.current item current
    have differs : ticket ≠ item.ticket := by
      rintro rfl
      rw [running] at waits
      simp at waits
    rw [List.getElem?_set_ne differs]
    exact running

end Worker.Marked

/-- What was seen of each item, and what tickets tell of it. -/
structure Told
    (events : List (Event Job Value))
    (view : View Job Value State) : Prop where
  known : ∀ (ticket : Nat) (told : Ticket Value), view.tickets[ticket]? = some told →
    ∃ item, item.ticket = ticket ∧ Story item (story events ticket) told
  unknown : ∀ ticket, view.tickets.length ≤ ticket → story events ticket = []
  marked : ∀ worker ∈ view.workers, worker.Marked view.tickets

namespace Told

variable
  {run : Job → State → Except Failure Value × State}
  {events : List (Event Job Value)}
  {view next : View Job Value State}
  {event : Event Job Value}
  {item : Item Job}

/-- The story of an accepted item. -/
theorem of_accepted
    (told : Told events view)
    (isAccepted : .accepted item ∈ events) :
    ∃ ticket, view.tickets[item.ticket]? = some ticket
      ∧ Story item (story events item.ticket) ticket := by
  have member : Event.accepted item ∈ story events item.ticket := mem_story.mpr ⟨isAccepted, rfl⟩
  cases found : view.tickets[item.ticket]? with
  | none =>
      rw [told.unknown _ (List.getElem?_eq_none_iff.mp found)] at member
      cases member
  | some ticket =>
      obtain ⟨owner, -, isStory⟩ := told.known _ _ found
      obtain rfl := isStory.eq_of_accepted_mem member
      exact ⟨ticket, rfl, isStory⟩

/-- The story of an item with a known ticket. -/
theorem of_ticket
    {ticket : Ticket Value}
    (told : Told events view)
    (isAccepted : .accepted item ∈ events)
    (found : view.tickets[item.ticket]? = some ticket) :
    Story item (story events item.ticket) ticket := by
  obtain ⟨other, isOther, isStory⟩ := told.of_accepted isAccepted
  rw [found] at isOther
  cases isOther
  exact isStory

/-- An event that is about no item, and leaves the tickets. -/
theorem pass
    (told : Told events view)
    (quiet : event.ticket? = none)
    (tickets : next.tickets = view.tickets)
    (marked : ∀ worker ∈ next.workers, worker.Marked view.tickets) :
    Told (events ++ [event]) next := by
  have same (ticket : Nat) : story (events ++ [event]) ticket = story events ticket := by
    rw [story_snoc, quiet, if_neg (by simp)]
  refine ⟨fun ticket known found => ?_, fun ticket beyond => ?_, fun worker member => ?_⟩
  · rw [same]
    rw [tickets] at found
    exact told.known ticket known found
  · rw [same]
    rw [tickets] at beyond
    exact told.unknown ticket beyond
  · rw [tickets]
    exact marked worker member

/-- An event about an item, after which its ticket tells the longer story. -/
theorem advance
    {after : Ticket Value}
    (told : Told events view)
    (about : event.ticket? = some item.ticket)
    (longer : Story item (story events item.ticket ++ [event]) after)
    (now : next.tickets[item.ticket]? = some after)
    (others : ∀ ticket, item.ticket ≠ ticket → next.tickets[ticket]? = view.tickets[ticket]?)
    (marked : ∀ worker ∈ next.workers, worker.Marked next.tickets) :
    Told (events ++ [event]) next := by
  refine ⟨fun ticket known isKnown => ?_, fun ticket beyond => ?_, marked⟩
  · rw [story_snoc, about]
    by_cases same : item.ticket = ticket
    · subst same
      cases now.symm.trans isKnown
      rw [if_pos rfl]
      exact ⟨item, rfl, longer⟩
    · rw [others ticket same] at isKnown
      rw [if_neg fun equal => same (Option.some.inj equal)]
      exact told.known ticket known isKnown
  · have absent : next.tickets[ticket]? = none := List.getElem?_eq_none_iff.mpr beyond
    have differs : item.ticket ≠ ticket := by
      rintro rfl
      cases now.symm.trans absent
    rw [others ticket differs] at absent
    rw [story_snoc, about, if_neg fun equal => differs (Option.some.inj equal)]
    exact told.unknown ticket (List.getElem?_eq_none_iff.mp absent)

/-- An event about an item, of which only the ticket of that item changes. -/
theorem advance_set
    {before after : Ticket Value}
    (told : Told events view)
    (about : event.ticket? = some item.ticket)
    (found : view.tickets[item.ticket]? = some before)
    (longer : Story item (story events item.ticket ++ [event]) after)
    (tickets : next.tickets = view.tickets.set item.ticket after)
    (marked : ∀ worker ∈ next.workers, worker.Marked (view.tickets.set item.ticket after)) :
    Told (events ++ [event]) next := by
  refine told.advance about longer ?_ (fun ticket differs => ?_) (tickets ▸ marked)
  · rw [tickets, List.getElem?_set_self (List.getElem?_eq_some_iff.mp found).1]
  · rw [tickets, List.getElem?_set_ne differs]

/-- Marks stay when the ticket of an item changes, with all workers but its own. -/
theorem marked_set
    {worker changed : Worker Job}
    {index : Nat}
    {after : Ticket Value}
    (told : Told events view)
    (lined : Lined events view)
    (found : view.workers[index]? = some worker)
    (member : item ∈ worker.items)
    (own : changed.Marked (view.tickets.set item.ticket after)) :
    ∀ other ∈ view.workers.set index changed,
      other.Marked (view.tickets.set item.ticket after) := by
  intro other isOther
  obtain ⟨place, isPlace⟩ := List.getElem?_of_mem isOther
  rcases getElem?_set_eq_some isPlace with ⟨-, rfl⟩ | ⟨apart, isOld⟩
  · exact own
  · refine (told.marked other (List.mem_of_getElem? isOld)).congr fun another inOther => ?_
    refine List.getElem?_set_ne (Ne.symm ?_)
    rw [← lane_of_getElem? found] at member
    rw [← lane_of_getElem? isOld] at inOther
    exact lined.ticket_ne member inOther apart

/-- Every step keeps the stories. -/
theorem shift
    (told : Told events view)
    (lined : Lined events view)
    (shift : Shift run view event next) : Told (events ++ [event]) next := by
  cases shift with
  | start free inactive =>
      refine told.pass rfl rfl fun worker member => ?_
      obtain ⟨number, -, rfl⟩ := List.mem_map.mp member
      exact .new _ number
  | @submit worker key job free active found room =>
      have longer : Story ⟨view.tickets.length, key, job⟩ (story events view.tickets.length
          ++ [.accepted ⟨view.tickets.length, key, job⟩]) (.pending : Ticket Value) := by
        rw [told.unknown _ (Nat.le_refl _)]
        exact .waiting
      have old {worker : Worker Job} (marked : worker.Marked view.tickets) :
          worker.Marked (view.tickets ++ [.pending]) :=
        marked.congr fun item member => List.getElem?_append_left (marked.lt_length member)
      refine told.advance rfl longer List.getElem?_concat_length (fun ticket differs => ?_)
        fun other member => ?_
      · rcases Nat.lt_or_gt_of_ne differs with beyond | inside
        · rw [List.getElem?_eq_none (by simpa using Nat.succ_le_of_lt beyond),
            List.getElem?_eq_none (Nat.le_of_lt beyond)]
        · exact List.getElem?_append_left inside
      · rcases List.mem_or_eq_of_mem_set member with member | rfl
        · exact old (told.marked other member)
        · have marked := old (told.marked worker (List.mem_of_getElem? found))
          refine ⟨fun item waits => ?_, marked.current⟩
          rcases List.mem_append.mp waits with waits | new
          · exact marked.waiting item waits
          · cases List.mem_singleton.mp new
            exact .inl List.getElem?_concat_length
  | @cancel ticket waits =>
      have marked (worker : Worker Job) (member : worker ∈ view.workers) :
          worker.Marked (view.tickets.set ticket .cancelled) :=
        (told.marked worker member).cancel waits
      rcases waits with found | found
      · obtain ⟨item, rfl, isStory⟩ := told.known _ _ found
        exact told.advance_set rfl found (isStory.cancel (.inl rfl)) rfl marked
      · obtain ⟨item, rfl, isStory⟩ := told.known _ _ found
        exact told.advance_set rfl found (isStory.cancel (.inr rfl)) rfl marked
  | @ask worker asked stopping found room =>
      refine told.pass rfl rfl fun other member => ?_
      rcases List.mem_or_eq_of_mem_set member with member | rfl
      · exact told.marked other member
      · have marked := told.marked worker (List.mem_of_getElem? found)
        exact ⟨fun item waits => marked.waiting item (by simpa using waits), marked.current⟩
  | @begin worker index item queue found idle shape wanted =>
      have marked := told.marked worker (List.mem_of_getElem? found)
      have waits : .work item ∈ worker.queue := by simp [shape]
      have member := mem_items.mpr (.inr waits)
      have pending : view.tickets[item.ticket]? = some .pending := by
        rcases marked.waiting item waits with pending | cancelled
        · exact pending
        · exact absurd rfl (wanted _ cancelled)
      have isStory := told.of_ticket (lined.accepted_of_mem_items found member) pending
      have items : lane view.workers index = item :: queue.filterMap Entry.item? := by
        simp [lane_of_getElem? found, Worker.items, idle, shape]
      refine told.advance_set rfl pending isStory.begin rfl
        (told.marked_set lined found member ⟨fun other isBehind => ?_, fun other current => ?_⟩)
      · have differs : other.ticket ≠ item.ticket :=
          lined.ticket_ne_of_rest items (List.mem_filterMap.mpr ⟨_, isBehind, rfl⟩)
        rw [List.getElem?_set_ne (Ne.symm differs)]
        exact marked.waiting other (by simp [shape, isBehind])
      · cases current
        exact List.getElem?_set_self (List.getElem?_eq_some_iff.mp pending).1
  | @drop worker index item queue found idle shape unwanted =>
      have member := mem_items.mpr (.inr (by simp [shape] : .work item ∈ worker.queue))
      have isStory := told.of_ticket (lined.accepted_of_mem_items found member) unwanted
      refine told.advance rfl isStory.drop unwanted (fun _ _ => rfl) fun other member => ?_
      rcases List.mem_or_eq_of_mem_set member with member | rfl
      · exact told.marked other member
      · have marked := told.marked worker (List.mem_of_getElem? found)
        refine marked.rest (fun entry member => ?_) worker.stopped
        rw [shape]
        exact List.mem_cons_of_mem _ member
  | @leave worker index number queue found idle shape =>
      refine told.pass rfl rfl fun other member => ?_
      rcases List.mem_or_eq_of_mem_set member with member | rfl
      · exact told.marked other member
      · refine (told.marked worker (List.mem_of_getElem? found)).rest (fun entry member => ?_) true
        rw [shape]
        exact List.mem_cons_of_mem _ member
  | @finish worker index item found current =>
      have marked := told.marked worker (List.mem_of_getElem? found)
      have member := mem_items.mpr (.inl current)
      have running := marked.current item current
      have isStory := told.of_ticket (lined.accepted_of_mem_items found member) running
      have items : lane view.workers index = item :: worker.queue.filterMap Entry.item? := by
        simp [lane_of_getElem? found, Worker.items, current]
      refine told.advance_set rfl running (isStory.finish _) rfl
        (told.marked_set lined found member
          ⟨fun other isBehind => ?_, fun other impossible => by cases impossible⟩)
      have differs : other.ticket ≠ item.ticket :=
        lined.ticket_ne_of_rest items (List.mem_filterMap.mpr ⟨_, isBehind, rfl⟩)
      rw [List.getElem?_set_ne (Ne.symm differs)]
      exact marked.waiting other isBehind
  | warn | refuse | keep | stop | join => exact told.pass rfl rfl told.marked

/-- The story of a ticket that tells a result. -/
theorem of_finished
    {ticket : Nat}
    {result : Except Failure Value}
    (told : Told events view)
    (found : view.tickets[ticket]? = some (.finished result)) :
    ∃ item, item.ticket = ticket
      ∧ story events ticket = [.accepted item, .begun item, .ended item result] := by
  obtain ⟨item, isTicket, isStory⟩ := told.known ticket _ found
  exact ⟨item, isTicket, isStory.of_finished⟩

/-- A story that has come to its end stays as it is. -/
theorem of_ended
    {ticket : Nat}
    {later : List (Event Job Value)}
    {result : Except Failure Value}
    (told : Told (events ++ later) view)
    (ended : story events ticket = [.accepted item, .begun item, .ended item result]) :
    story later ticket = [] ∧ view.tickets[ticket]? = some (.finished result) := by
  have whole : story (events ++ later) ticket = story events ticket ++ story later ticket :=
    List.filter_append ..
  rw [ended] at whole
  cases found : view.tickets[ticket]? with
  | none =>
      rw [told.unknown ticket (List.getElem?_eq_none_iff.mp found)] at whole
      cases whole
  | some state =>
      obtain ⟨owner, -, isStory⟩ := told.known ticket state found
      rw [whole] at isStory
      obtain ⟨quiet, rfl⟩ := isStory.eq_nil_of_ended
      exact ⟨quiet, rfl⟩

/-- What was seen of a ticket was seen of an accepted item. -/
theorem exists_accepted
    {ticket : Nat}
    (told : Told events view)
    (member : event ∈ events)
    (about : event.ticket? = some ticket) :
    ∃ item, .accepted item ∈ events ∧ item.ticket = ticket := by
  have inStory := mem_story.mpr ⟨member, about⟩
  cases found : view.tickets[ticket]? with
  | none =>
      rw [told.unknown ticket (List.getElem?_eq_none_iff.mp found)] at inStory
      cases inStory
  | some state =>
      obtain ⟨item, isTicket, isStory⟩ := told.known ticket state found
      exact ⟨item, (mem_story.mp isStory.accepted_mem).1, isTicket⟩

/-- An item that is at hand has not ended. -/
theorem ticket_ne_of_running
    {ticket : Nat}
    {result : Except Failure Value}
    (told : Told events view)
    (running : view.tickets[ticket]? = some .running)
    (ended : .ended item result ∈ events) : item.ticket ≠ ticket := by
  rintro rfl
  obtain ⟨owner, -, isStory⟩ := told.known _ _ running
  have inStory : .ended item result ∈ story events item.ticket := mem_story.mpr ⟨ended, rfl⟩
  generalize story events item.ticket = own at isStory inStory
  cases isStory
  simp at inStory

/-- An item that a worker is done with has ended or was taken back. -/
theorem ended_of_handled
    (told : Told events view)
    (isAccepted : .accepted item ∈ events)
    (isHandled : item ∈ handled events) :
    ((∃ result, .ended item result ∈ events) ∨ .cancelled item.ticket ∈ events)
      ∧ ((∃ result, view.tickets[item.ticket]? = some (.finished result))
        ∨ view.tickets[item.ticket]? = some .cancelled) := by
  obtain ⟨ticket, found, isStory⟩ := told.of_accepted isAccepted
  have inStory : item ∈ handled (story events item.ticket) := by
    rw [mem_handled] at isHandled ⊢
    refine isHandled.imp (fun ⟨result, member⟩ => ⟨result, ?_⟩) fun member => ?_
    · exact mem_story.mpr ⟨member, rfl⟩
    · exact mem_story.mpr ⟨member, rfl⟩
  rcases isStory.of_handled inStory with ⟨result, rfl⟩ | rfl
  · exact ⟨.inl ⟨result, (mem_story.mp (isStory.finished_iff.mp rfl)).1⟩, .inl ⟨result, found⟩⟩
  · exact ⟨.inr (mem_story.mp (isStory.cancelled_iff.mp rfl)).1, .inr found⟩

end Told

end Pool
end Fulfilment
