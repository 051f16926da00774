import Fulfilment.Proofs.Pool.Regular
import Mathlib.Algebra.Ring.Nat

/-!
# Progress of a pool

A pool does not get stuck.  A worker with something to do can do it, which lightens its load, and a
submission is accepted when there is room for it.  A thread that stops a pool does not wait for
ever: until all workers have stopped some step is possible, and each step but the taking back of
an item uses up work, which is the signs to stop that are still to be put and what the workers
still have to take and to finish.
-/

namespace Fulfilment
namespace Pool

/-- Whether an event is a request to take an item back. -/
def Event.recalls : Event Job Value → Bool
  | .cancelled _ | .kept _ => true
  | _ => false

/-- Whether an event is a step of a worker. -/
def Event.byWorker : Event Job Value → Bool
  | .begun _ | .dropped _ | .left _ | .ended _ _ => true
  | _ => false

/-- Whether an event is a step of a thread that stops the pool. -/
def Event.byStop : Event Job Value → Bool
  | .stopping | .asked _ | .stopped => true
  | _ => false

/-- How many steps a worker can make with what it has. -/
def Worker.load (worker : Worker Job) : Nat :=
  2 * worker.queue.length + worker.current.toList.length

/-- How many steps the workers can make with what they have. -/
def View.load (view : View Job Value State) : Nat :=
  (view.workers.map Worker.load).sum

/-- How many steps are left until a thread has stopped the pool: a sign to stop is put, taken, and
weighs as an entry of the queue meanwhile. -/
def View.work (view : View Job Value State) : Nat :=
  match view.control with
  | .free => 0
  | .stopping asked => 1 + 3 * (view.workers.length - asked) + view.load

variable
  {Job Value State : Type}
  {run : Job → State → Except Failure Value × State}
  {view next : View Job Value State}
  {event : Event Job Value}
  {site first : Site Job Value State}
  {events : List (Event Job Value)}

theorem load_set
    {workers : List (Worker Job)}
    {index : Nat}
    {worker : Worker Job}
    (found : workers[index]? = some worker)
    (changed : Worker Job) :
    ((workers.set index changed).map Worker.load).sum + worker.load =
      (workers.map Worker.load).sum + changed.load := by
  induction workers generalizing index with
  | nil => cases found
  | cons head rest ih =>
      cases index with
      | zero =>
          cases found
          simp only [List.set_cons_zero, List.map_cons, List.sum_cons]
          omega
      | succ index =>
          have step := ih found
          simp only [List.set_cons_succ, List.map_cons, List.sum_cons]
          omega

/-- An entry that comes into a queue weighs two. -/
theorem load_push
    {index : Nat}
    {worker : Worker Job}
    (found : view.workers[index]? = some worker)
    (entry : Entry Job) :
    ((view.workers.set index { worker with queue := worker.queue ++ [entry] }).map
      Worker.load).sum = view.load + 2 := by
  have load := load_set found { worker with queue := worker.queue ++ [entry] }
  have heavier : Worker.load { worker with queue := worker.queue ++ [entry] } =
      worker.load + 2 := by
    simp only [Worker.load, List.length_append, List.length_singleton]
    omega
  unfold View.load
  omega

/-- A worker whose load gets lighter makes that of all lighter. -/
theorem load_lt
    {index : Nat}
    {worker changed : Worker Job}
    (found : view.workers[index]? = some worker)
    (lighter : changed.load < worker.load) :
    ((view.workers.set index changed).map Worker.load).sum < view.load := by
  have load := load_set found changed
  unfold View.load
  omega

/-- A step of a worker lightens the load. -/
theorem Shift.load_lt_of_byWorker
    (shift : Shift run view event next)
    (byWorker : event.byWorker = true) :
    next.load < view.load ∧ next.workers.length = view.workers.length := by
  cases shift with
  | @begin worker index item queue found idle shape wanted =>
      refine ⟨load_lt found ?_, List.length_set⟩
      simp [Worker.load, shape, idle]
      omega
  | @drop worker index item queue found idle shape unwanted =>
      refine ⟨load_lt found ?_, List.length_set⟩
      simp [Worker.load, shape, idle]
  | @leave worker index number queue found idle shape =>
      refine ⟨load_lt found ?_, List.length_set⟩
      simp [Worker.load, shape, idle]
  | @finish worker index item found current =>
      refine ⟨load_lt found ?_, List.length_set⟩
      simp [Worker.load, current]
  | start | warn | submit | refuse | cancel | keep | stop | ask | join => cases byWorker

/-- An accepted item weighs two. -/
theorem Shift.load_of_accepted
    {item : Item Job}
    (shift : Shift run view (.accepted item) next) :
    next.load = view.load + 2 ∧ next.workers.length = view.workers.length := by
  cases shift with
  | submit free active found room => exact ⟨load_push found _, List.length_set⟩

/-- While a pool is stopped, every step lessens the work, but a request to take an item back, which
leaves it. -/
theorem Shift.work
    {asked : Nat}
    (shift : Shift run view event next)
    (stopping : view.control = .stopping asked) :
    if event.recalls then next.work = view.work ∧ next.control = view.control
    else next.work < view.work := by
  have lighter (byWorker : event.byWorker = true) (control : next.control = view.control) :
      next.work < view.work := by
    obtain ⟨load, length⟩ := shift.load_lt_of_byWorker byWorker
    simp only [View.work, control, stopping, length]
    omega
  cases shift with
  | start free | warn free | submit free | refuse free | stop free => cases free.symm.trans stopping
  | cancel | keep => exact ⟨rfl, rfl⟩
  | @ask worker current counted found room =>
      have inside := (List.getElem?_eq_some_iff.mp found).1
      have load := load_push found .stop
      simp only [View.load] at load
      simp only [Event.recalls, View.work, counted, View.load, List.length_set, Bool.false_eq_true,
        if_false]
      omega
  | join counted stopped =>
      simp only [Event.recalls, View.work, counted, View.load, Bool.false_eq_true, if_false]
      omega
  | begin | drop | leave | finish => exact lighter rfl rfl

/-- A thread that stops a pool is at it until all workers have stopped. -/
theorem Shift.stopping
    {asked : Nat}
    (shift : Shift run view event next)
    (stopping : view.control = .stopping asked)
    (unstopped : event ≠ .stopped) : ∃ more, next.control = .stopping more := by
  cases shift with
  | start free | warn free | submit free | refuse free | stop free => cases free.symm.trans stopping
  | ask => exact ⟨_, rfl⟩
  | join => exact absurd rfl unstopped
  | cancel | keep | begin | drop | leave | finish => exact ⟨asked, stopping⟩

/-- Until all workers have stopped, there are no more steps than the work was, requests to take
items back apart. -/
theorem Schedule.bounded
    {asked : Nat}
    (schedule : Schedule run first events site)
    (stopping : first.control = .stopping asked)
    (unstopped : .stopped ∉ events) :
    (∃ more, site.control = .stopping more)
      ∧ (events.countP fun event => !event.recalls) + site.view.work ≤ first.view.work := by
  induction schedule with
  | nil => exact ⟨⟨asked, stopping⟩, by simp⟩
  | @snoc events site next event schedule step ih =>
      obtain ⟨⟨now, isNow⟩, bound⟩ := ih fun member => unstopped (List.mem_append_left _ member)
      have shift := shift_of_step step
      refine ⟨shift.stopping isNow fun same => unstopped (by simp [same]), ?_⟩
      have work := shift.work isNow
      rw [List.countP_append, List.countP_singleton]
      cases recalls : event.recalls with
      | true =>
          rw [if_pos recalls] at work
          simp only [Bool.not_true, Bool.false_eq_true, if_false]
          omega
      | false =>
          rw [if_neg (by simp [recalls])] at work
          simp only [Bool.not_false, if_true]
          omega

/-- An accepted item has the next ticket. -/
theorem Shift.of_accepted
    {item : Item Job}
    (shift : Shift run view (.accepted item) next) :
    item.ticket = view.tickets.length ∧ next.tickets = view.tickets ++ [.pending]
      ∧ next.control = view.control ∧ next.active = view.active := by
  cases shift with
  | submit => exact ⟨rfl, rfl, rfl, rfl⟩

/-- A step of a worker leaves the controlling thread where it is. -/
theorem Shift.of_byWorker
    (shift : Shift run view event next)
    (byWorker : event.byWorker = true) :
    next.control = view.control ∧ next.active = view.active
      ∧ next.tickets.length = view.tickets.length := by
  cases shift with
  | begin | finish => exact ⟨rfl, rfl, List.length_set⟩
  | drop | leave => exact ⟨rfl, rfl, rfl⟩
  | start | warn | submit | refuse | cancel | keep | stop | ask | join => cases byWorker

/-- An item ends as its job ends. -/
theorem Shift.result_eq
    {item : Item Job}
    {result : Except Failure Value}
    (shift : Shift run view (.ended item result) next) :
    (run item.job view.state).1 = result := by
  cases shift with
  | finish => rfl

/-- A step ends an item that a worker has at hand, as its job ends, or it ends nothing and leaves
what the jobs work on. -/
theorem Shift.ends_or
    (shift : Shift run view event next) :
    (∃ worker ∈ view.workers, ∃ item, worker.current = some item
        ∧ event = .ended item (run item.job view.state).1
        ∧ next.state = (run item.job view.state).2)
      ∨ (∀ item result, event ≠ .ended item result) ∧ next.state = view.state := by
  cases shift with
  | @finish worker index item found current =>
      exact .inl ⟨worker, List.mem_of_getElem? found, item, current, rfl, rfl⟩
  | start | warn | submit | refuse | cancel | keep | stop | ask | join | begin | drop | leave =>
      exact .inr ⟨by simp, rfl⟩

/-- While a pool is not stopped, a step of a worker is about an item. -/
theorem Shift.isSome_ticket?
    (shift : Shift run view event next)
    (staffed : Staffed view)
    (byWorker : event.byWorker = true)
    (free : view.control = .free)
    (active : view.active = true) : event.ticket?.isSome = true := by
  cases shift with
  | begin | finish | drop => rfl
  | @leave worker index number queue found idle shape =>
      have sound := staffed.sound index worker found
      have unasked : view.hasAsked index = false := by simp [View.hasAsked, free, active]
      rw [unasked] at sound
      cases (sound.queue_of_stop shape).1
  | start | warn | submit | refuse | cancel | keep | stop | ask | join => cases byWorker

/-- The workers of a pool that has stopped make no step. -/
theorem Shift.not_byWorker
    (shift : Shift run view event next)
    (staffed : Staffed view)
    (free : view.control = .free)
    (inactive : view.active = false) : event.byWorker = false := by
  have rested (index : Nat) (worker : Worker Job) (found : view.workers[index]? = some worker) :
      worker.queue = [] ∧ worker.current = none :=
    ((staffed.sound index worker found).stopped
      (staffed.rested free inactive worker (List.mem_of_getElem? found))).2
  cases shift with
  | begin found idle shape | drop found idle shape | leave found idle shape =>
      cases shape.symm.trans (rested _ _ found).1
  | finish found current => cases current.symm.trans (rested _ _ found).2
  | start | warn | submit | refuse | cancel | keep | stop | ask | join => rfl

/-! ## Some step is possible -/

/-- A worker that has an item has something to do. -/
theorem Worker.load_ne_zero
    {worker : Worker Job}
    {item : Item Job}
    (member : item ∈ worker.items) : worker.load ≠ 0 := by
  unfold Worker.load
  rcases mem_items.mp member with current | waits
  · simp [current]
  · have inside := List.length_pos_of_mem waits
    omega

/-- A worker with something at hand or in its queue can make a step. -/
theorem exists_step_of_load
    {index : Nat}
    {worker : Worker Job}
    (found : site.pool.workers[index]? = some worker)
    (going : worker.stopped = false)
    (loaded : worker.load ≠ 0) :
    ∃ event next, Step run site event next ∧ event.byWorker = true := by
  cases current : worker.current with
  | some item =>
      have finished : worker.finish? (fun _ => true) run site.pool.board site.state =
          some ({ worker with current := none },
            site.pool.board.finish worker.index item (run item.job site.state).1,
            (run item.job site.state).2) := by
        simp [Worker.finish?, current]
      exact ⟨_, _, .finish found current finished, rfl⟩
  | none =>
      cases shape : worker.queue with
      | nil => exact absurd (by simp [Worker.load, current, shape]) loaded
      | cons entry queue =>
          have ready : (worker.stopped || worker.current.isSome) = false := by
            simp [going, current]
          cases taken : worker.take? site.pool.board with
          | none =>
              simp only [Worker.take?, ready, shape, Bool.false_eq_true, if_false] at taken
              cases entry with
              | stop => cases taken
              | work item => dsimp only at taken; split at taken <;> cases taken
          | some result =>
              refine ⟨_, _, .take found taken, ?_⟩
              unfold Worker.taking
              rw [shape]
              cases entry with
              | stop => rfl
              | work item => dsimp only; split <;> rfl

/-- An entry comes into the queue of a worker that has room. -/
theorem offer_of_hasRoom
    {pool : Pool Job Value}
    {index : Nat}
    {worker : Worker Job}
    (found : pool.workers[index]? = some worker)
    (room : worker.hasRoom pool.capacity = true)
    (unblocked : worker.waiting = [])
    (entry : Entry Job) :
    pool.offer index entry = (true, { pool with
      workers := pool.workers.set index { worker with queue := worker.queue ++ [entry] }
      board := pool.board.countIn entry }) := by
  simp [offer, found, Worker.offer, room, unblocked]

/-- What becomes of a submission to a queue that has room. -/
theorem submit_of_hasRoom
    {pool : Pool Job Value}
    {key : String}
    {index : Nat}
    {worker : Worker Job}
    (active : pool.active = true)
    (own : workerIndex key pool.workerCount = index)
    (found : pool.workers[index]? = some worker)
    (room : worker.hasRoom pool.capacity = true)
    (unblocked : worker.waiting = [])
    (job : Job) :
    pool.submit key job = .ok (⟨index, pool.board.tickets.length, false⟩,
      { pool with
        workers := pool.workers.set index
          { worker with queue := worker.queue ++ [.work ⟨pool.board.tickets.length, key, job⟩] }
        board := pool.board.issue.2.countIn
          (.work (⟨pool.board.tickets.length, key, job⟩ : Item Job)) }) := by
  have offered := @offer_of_hasRoom _ _ { pool with board := pool.board.issue.2 } _ _ found room
    unblocked (.work ⟨pool.board.tickets.length, key, job⟩)
  unfold submit
  rw [if_pos active, own]
  simp only [Board.issue] at offered ⊢
  rw [offered]
  rfl

/-- A pool that runs accepts every submission to a queue that has room. -/
theorem Staffed.accepts
    (staffed : Staffed site.view)
    (free : site.control = .free)
    (active : site.pool.active = true)
    (positive : 0 < site.pool.workerCount)
    (key : String)
    (job : Job) :
    ∃ worker, site.pool.workers[workerIndex key site.pool.workerCount]? = some worker
      ∧ (worker.hasRoom site.pool.capacity = true →
        ∃ next, Step run site (.accepted ⟨site.pool.board.tickets.length, key, job⟩) next) := by
  have manned : site.pool.workers.length = site.pool.workerCount := staffed.manned (.inr active)
  have inside : workerIndex key site.pool.workerCount < site.pool.workers.length := by
    rw [manned]
    exact Nat.mod_lt _ positive
  obtain ⟨worker, found⟩ : ∃ worker,
      site.pool.workers[workerIndex key site.pool.workerCount]? = some worker :=
    ⟨_, List.getElem?_eq_getElem inside⟩
  refine ⟨worker, found, fun room => ?_⟩
  have unblocked := (staffed.sound _ worker found).unblocked
  exact ⟨_, .submit free (submit_of_hasRoom active rfl found room unblocked job) rfl⟩

/-- While a pool is stopped, a worker or the thread that stops it can make a step. -/
theorem exists_step_of_stopping
    {asked : Nat}
    (staffed : Staffed site.view)
    (stopping : site.control = .stopping asked) :
    ∃ event next, Step run site event next ∧ (event.byWorker || event.byStop) = true := by
  by_cases loaded : ∃ (index : Nat) (worker : Worker Job),
      site.pool.workers[index]? = some worker ∧ worker.load ≠ 0
  · obtain ⟨index, worker, found, loaded⟩ := loaded
    have going : worker.stopped = false := by
      rw [Bool.eq_false_iff]
      intro stopped
      obtain ⟨-, queue, current⟩ := (staffed.sound index worker found).stopped stopped
      exact loaded (by simp [Worker.load, queue, current])
    obtain ⟨event, next, step, byWorker⟩ := exists_step_of_load found going loaded
    exact ⟨event, next, step, by rw [byWorker, Bool.true_or]⟩
  · have idle (index : Nat) (worker : Worker Job)
        (found : site.pool.workers[index]? = some worker) : worker.queue = [] := by
      have unloaded : worker.load = 0 :=
        Decidable.byContradiction fun isLoaded => loaded ⟨index, worker, found, isLoaded⟩
      unfold Worker.load at unloaded
      exact List.length_eq_zero_iff.mp (by omega)
    rcases Nat.lt_or_eq_of_le (staffed.inactive asked stopping).2 with inside | every
    · obtain ⟨worker, found⟩ : ∃ worker, site.pool.workers[asked]? = some worker :=
        ⟨_, List.getElem?_eq_getElem inside⟩
      have room : worker.hasRoom site.pool.capacity = true := by
        simp only [Worker.hasRoom, idle asked worker found, List.length_nil, Bool.or_eq_true,
          decide_eq_true_eq]
        omega
      have unblocked := (staffed.sound asked worker found).unblocked
      exact ⟨_, _, .ask stopping (offer_of_hasRoom found room unblocked .stop), rfl⟩
    · refine ⟨_, _, .join (by rw [stopping, every]; rfl) fun worker member => ?_, rfl⟩
      obtain ⟨index, found⟩ := List.getElem?_of_mem member
      have inside : index < asked := by
        rw [every]
        exact (List.getElem?_eq_some_iff.mp found).1
      have isAsked : site.view.hasAsked index = true := by
        simpa [View.hasAsked, Site.view, stopping] using inside
      obtain ⟨items, shape⟩ := (staffed.sound index worker found).queue
      rw [idle index worker found, isAsked, Bool.true_and] at shape
      have unsigned := signs_eq_nil (List.append_eq_nil_iff.mp shape.symm).2
      simpa using unsigned

end Pool
end Fulfilment
