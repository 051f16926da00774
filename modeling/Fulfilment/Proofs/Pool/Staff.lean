import Fulfilment.Proofs.Pool.Schedule

/-!
# The workers of a schedule

At every moment of a schedule the queue of a worker holds items only, and behind them the sign to
stop if the worker was asked and has not taken it yet.  A worker stops by taking the sign, so it
has nothing left then.  No queue is longer than its capacity.
-/

namespace Fulfilment
namespace Pool

/-- The sign to stop, if it stands in a queue. -/
def signs (asked : Bool) : List (Entry Job) :=
  if asked then [.stop] else []

theorem signs_eq_nil
    {asked : Bool}
    (unsigned : (signs asked : List (Entry Job)) = []) : asked = false := by
  cases asked with
  | false => rfl
  | true => cases unsigned

/-- A worker with items in its queue and behind them the sign to stop, until it takes that. -/
structure Worker.Sound
    (asked : Bool)
    (worker : Worker Job) : Prop where
  queue : ∃ items : List (Item Job),
    worker.queue = items.map .work ++ signs (asked && !worker.stopped)
  stopped : worker.stopped = true → asked = true ∧ worker.queue = [] ∧ worker.current = none
  unblocked : worker.waiting = []

variable {Job Value State : Type}

namespace Worker.Sound

variable {worker : Worker Job} {asked : Bool} {item : Item Job} {queue : List (Entry Job)}

/-- A worker with something to take has not stopped. -/
theorem not_stopped_of_queue
    {entry : Entry Job}
    (sound : worker.Sound asked)
    (shape : worker.queue = entry :: queue) : worker.stopped = false := by
  rw [Bool.eq_false_iff]
  intro stopped
  obtain ⟨-, empty, -⟩ := sound.stopped stopped
  rw [shape] at empty
  cases empty

theorem not_stopped_of_current
    (sound : worker.Sound asked)
    (current : worker.current = some item) : worker.stopped = false := by
  rw [Bool.eq_false_iff]
  intro stopped
  obtain ⟨-, -, idle⟩ := sound.stopped stopped
  rw [current] at idle
  cases idle

theorem not_stopped_of_not_asked (sound : worker.Sound false) : worker.stopped = false := by
  rw [Bool.eq_false_iff]
  intro stopped
  cases (sound.stopped stopped).1

/-- A new worker is sound. -/
theorem new (index : Nat) : ({ index } : Worker Job).Sound false :=
  ⟨⟨[], rfl⟩, fun stopped => (nomatch stopped), rfl⟩

theorem submit (sound : worker.Sound false) (item : Item Job) :
    ({ worker with queue := worker.queue ++ [.work item] } : Worker Job).Sound false := by
  have going := sound.not_stopped_of_not_asked
  obtain ⟨items, shape⟩ := sound.queue
  refine ⟨⟨items ++ [item], ?_⟩, fun stopped => ?_, sound.unblocked⟩
  · simp [shape, signs]
  · rw [going] at stopped
    cases stopped

theorem ask (sound : worker.Sound false) :
    ({ worker with queue := worker.queue ++ [.stop] } : Worker Job).Sound true := by
  have going := sound.not_stopped_of_not_asked
  obtain ⟨items, shape⟩ := sound.queue
  refine ⟨⟨items, ?_⟩, fun stopped => ?_, sound.unblocked⟩
  · simp [shape, signs, going]
  · rw [going] at stopped
    cases stopped

/-- The items behind the next one stand in the queue still. -/
theorem rest
    (sound : worker.Sound asked)
    (shape : worker.queue = .work item :: queue)
    (current : Option (Item Job)) :
    ({ worker with queue, current } : Worker Job).Sound asked := by
  have going := sound.not_stopped_of_queue shape
  obtain ⟨items, whole⟩ := sound.queue
  rw [shape] at whole
  cases items with
  | nil =>
      unfold signs at whole
      split at whole <;> cases whole
  | cons first items =>
      refine ⟨⟨items, (List.cons.inj whole).2⟩, fun stopped => ?_, sound.unblocked⟩
      rw [going] at stopped
      cases stopped

/-- The sign to stop is the last entry. -/
theorem queue_of_stop
    (sound : worker.Sound asked)
    (shape : worker.queue = .stop :: queue) : asked = true ∧ queue = [] := by
  obtain ⟨items, whole⟩ := sound.queue
  rw [shape] at whole
  cases items with
  | nil =>
      unfold signs at whole
      split at whole
      · next isAsked =>
          cases whole
          exact ⟨(Bool.and_eq_true_iff.mp isAsked).1, rfl⟩
      · cases whole
  | cons first items => cases whole

theorem leave
    (sound : worker.Sound asked)
    (shape : worker.queue = .stop :: queue)
    (idle : worker.current = none) :
    ({ worker with queue, stopped := true } : Worker Job).Sound asked := by
  obtain ⟨isAsked, rfl⟩ := sound.queue_of_stop shape
  refine ⟨⟨[], ?_⟩, fun _ => ⟨isAsked, rfl, idle⟩, sound.unblocked⟩
  simp [signs]

theorem finish
    (sound : worker.Sound asked)
    (current : worker.current = some item) :
    ({ worker with current := none } : Worker Job).Sound asked := by
  have going := sound.not_stopped_of_current current
  refine ⟨sound.queue, fun stopped => ?_, sound.unblocked⟩
  rw [going] at stopped
  cases stopped

end Worker.Sound

/-- Whether a worker was asked to stop since the pool was started last. -/
def View.hasAsked
    (view : View Job Value State)
    (index : Nat) : Bool :=
  match view.control with
  | .free => !view.active
  | .stopping asked => decide (index < asked)

/-- The workers of a pool as they are at every moment of a schedule. -/
structure Staffed (view : View Job Value State) : Prop where
  sound : ∀ (index : Nat) (worker : Worker Job), view.workers[index]? = some worker →
    worker.Sound (view.hasAsked index)
  manned : view.control ≠ .free ∨ view.active = true → view.workers.length = view.workerCount
  inactive : ∀ asked, view.control = .stopping asked →
    view.active = false ∧ asked ≤ view.workers.length
  rested : view.control = .free → view.active = false → ∀ worker ∈ view.workers,
    worker.stopped = true
  room : 0 < view.capacity → ∀ worker ∈ view.workers, (worker.queue.length : Int) ≤ view.capacity

theorem getElem?_set_eq_some
    {workers : List (Worker Job)}
    {index other : Nat}
    {next worker : Worker Job}
    (found : (workers.set index next)[other]? = some worker) :
    (other = index ∧ worker = next) ∨ (other ≠ index ∧ workers[other]? = some worker) := by
  rw [List.getElem?_set] at found
  split at found
  · next same =>
      split at found
      · cases found
        exact .inl ⟨same.symm, rfl⟩
      · cases found
  · next differs => exact .inr ⟨fun same => differs same.symm, found⟩

theorem length_le_of_hasRoom
    {worker : Worker Job}
    {capacity : Int}
    (room : worker.hasRoom capacity = true)
    (positive : 0 < capacity)
    (entry : Entry Job) : ((worker.queue ++ [entry]).length : Int) ≤ capacity := by
  simp only [Worker.hasRoom, Bool.or_eq_true, decide_eq_true_eq] at room
  rw [List.length_append, List.length_singleton]
  omega

namespace Staffed

variable
  {run : Job → State → Except Failure Value × State}
  {view next : View Job Value State}
  {event : Event Job Value}

/-- A step that replaces one worker by a sound one with no longer a queue keeps the workers as they
are to be. -/
theorem replace
    {index : Nat}
    {worker changed : Worker Job}
    (staffed : Staffed view)
    (found : view.workers[index]? = some worker)
    (sound : changed.Sound (view.hasAsked index))
    (shorter : changed.queue.length ≤ worker.queue.length)
    (going : worker.stopped = false)
    (tickets : List (Ticket Value))
    (processed failed : Nat)
    (state : State) :
    Staffed { view with
      workers := view.workers.set index changed, tickets, processed, failed, state } where
  sound other worker found := by
    rcases getElem?_set_eq_some found with ⟨rfl, rfl⟩ | ⟨-, found⟩
    · exact sound
    · exact staffed.sound other worker found
  manned busy := by
    rw [List.length_set]
    exact staffed.manned busy
  inactive asked stopping := by
    rw [List.length_set]
    exact staffed.inactive asked stopping
  rested free inactive := by
    have stopped := staffed.rested free inactive worker (List.mem_of_getElem? found)
    rw [going] at stopped
    cases stopped
  room positive other member := by
    rcases List.mem_or_eq_of_mem_set member with member | rfl
    · exact staffed.room positive other member
    · have bound := staffed.room positive worker (List.mem_of_getElem? found)
      change (other.queue.length : Int) ≤ view.capacity
      omega

/-- Every step keeps the workers as they are to be. -/
theorem shift
    (staffed : Staffed view)
    (shift : Shift run view event next) : Staffed next := by
  cases shift with
  | start free inactive =>
      refine ⟨fun index worker found => ?_, fun _ => by simp, fun asked stopping => ?_,
        fun _ active => (nomatch active), fun positive worker member => ?_⟩
      · obtain ⟨number, -, rfl⟩ := List.mem_map.mp (List.mem_of_getElem? found)
        have unasked : View.hasAsked { view with
            active := true
            workers := (List.range view.workerCount).map fun index => ({ index } : Worker Job) }
              index = false := by
          simp [View.hasAsked, free]
        rw [unasked]
        exact .new number
      · cases free.symm.trans stopping
      · obtain ⟨number, -, rfl⟩ := List.mem_map.mp member
        exact Int.le_of_lt positive
  | warn free active => exact staffed
  | @submit worker key job free active found room =>
      have unasked (index : Nat) : view.hasAsked index = false := by
        simp [View.hasAsked, free, active]
      refine ⟨fun other replaced isReplaced => ?_, fun _ => ?_, fun asked stopping => ?_,
        fun _ inactive => ?_, fun positive other member => ?_⟩
      · change replaced.Sound (view.hasAsked other)
        rcases getElem?_set_eq_some isReplaced with ⟨-, rfl⟩ | ⟨-, isOld⟩
        · have sound := staffed.sound _ worker found
          rw [unasked] at sound ⊢
          exact sound.submit _
        · exact staffed.sound other replaced isOld
      · rw [List.length_set]
        exact staffed.manned (.inr active)
      · cases free.symm.trans stopping
      · cases active.symm.trans inactive
      · rcases List.mem_or_eq_of_mem_set member with member | rfl
        · exact staffed.room positive other member
        · exact length_le_of_hasRoom room positive _
  | refuse free inactive => exact staffed
  | cancel waits =>
      exact ⟨staffed.sound, staffed.manned, staffed.inactive, staffed.rested, staffed.room⟩
  | keep => exact staffed
  | stop free active =>
      refine ⟨fun index worker found => ?_, fun _ => staffed.manned (.inr active),
        fun asked stopping => ?_, fun free => (nomatch free), staffed.room⟩
      · have sound := staffed.sound index worker found
        have unasked : view.hasAsked index = false := by simp [View.hasAsked, free, active]
        rw [unasked] at sound
        simpa [View.hasAsked] using sound
      · cases stopping
        exact ⟨rfl, Nat.zero_le _⟩
  | @ask worker asked stopping found room =>
      obtain ⟨inactive, bound⟩ := staffed.inactive asked stopping
      have inside : asked < view.workers.length := (List.getElem?_eq_some_iff.mp found).1
      refine ⟨fun other replaced isReplaced => ?_, fun _ => ?_, fun count counted => ?_,
        fun free => (nomatch free), fun positive other member => ?_⟩
      · rcases getElem?_set_eq_some isReplaced with ⟨rfl, rfl⟩ | ⟨differs, isOld⟩
        · have sound := staffed.sound other worker found
          simp only [View.hasAsked, stopping, Nat.lt_irrefl, decide_false] at sound
          simpa [View.hasAsked] using sound.ask
        · have sound := staffed.sound other replaced isOld
          simp only [View.hasAsked, stopping] at sound
          have same : decide (other < asked + 1) = decide (other < asked) := by
            rw [decide_eq_decide]
            omega
          simpa only [View.hasAsked, same] using sound
      · rw [List.length_set]
        exact staffed.manned (.inl (by simp [stopping]))
      · cases counted
        rw [List.length_set]
        exact ⟨inactive, inside⟩
      · rcases List.mem_or_eq_of_mem_set member with member | rfl
        · exact staffed.room positive other member
        · exact length_le_of_hasRoom room positive _
  | join stopping stopped =>
      obtain ⟨inactive, -⟩ := staffed.inactive _ stopping
      refine ⟨fun index worker found => ?_, fun busy => ?_,
        fun asked stopping => (nomatch stopping), fun _ _ => stopped, staffed.room⟩
      · have sound := staffed.sound index worker found
        have inside := (List.getElem?_eq_some_iff.mp found).1
        simp only [View.hasAsked, stopping, inside, decide_true] at sound
        simpa [View.hasAsked, inactive] using sound
      · rcases busy with busy | active
        · exact absurd rfl busy
        · cases inactive.symm.trans active
  | @begin worker index item queue found idle shape wanted =>
      have sound := staffed.sound index worker found
      exact staffed.replace found (sound.rest shape _) (by simp [shape])
        (sound.not_stopped_of_queue shape) _ _ _ _
  | @drop worker index item queue found idle shape unwanted =>
      have sound := staffed.sound index worker found
      exact staffed.replace found (sound.rest shape worker.current) (by simp [shape])
        (sound.not_stopped_of_queue shape) _ _ _ _
  | @leave worker index number queue found idle shape =>
      have sound := staffed.sound index worker found
      exact staffed.replace found (sound.leave shape idle) (by simp [shape])
        (sound.not_stopped_of_queue shape) _ _ _ _
  | @finish worker index item found current =>
      have sound := staffed.sound index worker found
      exact staffed.replace found (sound.finish current) (Nat.le_refl _)
        (sound.not_stopped_of_current current) _ _ _ _

end Staffed

end Pool
end Fulfilment
