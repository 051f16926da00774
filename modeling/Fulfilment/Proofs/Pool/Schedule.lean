import Fulfilment.Pool.Basic

/-!
# Schedules of a pool

One thread controls a pool: it starts it, submits jobs, takes items back and stops it.  Between any
two of its steps the workers make theirs, in any order.  A submission and a sign to stop are steps
that wait until the queue in question has room, so no entry ever waits outside a queue.  The
steps are those of the pool itself; a schedule notes what is seen of each.
-/

namespace Fulfilment
namespace Pool

/-- Where the controlling thread is: it may call the pool, or it stops the pool and has asked so
many workers. -/
inductive Control where
  | free
  | stopping (asked : Nat)
deriving DecidableEq, Repr

/-- A pool, the thread that controls it, and the state that its jobs work on. -/
structure Site (Job Value State : Type) where
  pool : Pool Job Value
  control : Control := .free
  state : State

/-- What is seen of a step. -/
inductive Event (Job Value : Type) where
  /-- The pool was told to start. -/
  | started
  /-- An item was submitted. -/
  | accepted (item : Item Job)
  /-- A submission was refused. -/
  | refused (failure : Failure)
  /-- An item was taken back. -/
  | cancelled (ticket : Nat)
  /-- An item could not be taken back. -/
  | kept (ticket : Nat)
  /-- The pool was told to stop. -/
  | stopping
  /-- A worker was asked to stop. -/
  | asked (index : Nat)
  /-- All workers have stopped. -/
  | stopped
  /-- A worker took an item and began it. -/
  | begun (item : Item Job)
  /-- A worker took an item that was taken back before. -/
  | dropped (item : Item Job)
  /-- A worker took the sign to stop. -/
  | left (index : Nat)
  /-- A worker finished an item. -/
  | ended (item : Item Job) (result : Except Failure Value)

/-- What is seen of a worker that takes its next entry. -/
def Worker.taking
    (worker : Worker Job)
    (board : Board Value) : Event Job Value :=
  match worker.queue with
  | .work item :: _ => if board.isCancelled item.ticket then .dropped item else .begun item
  | .stop :: _ | [] => .left worker.index

variable {Job Value State : Type}

/-- A pool that was told to stop: from now on it takes nothing. -/
def closing (pool : Pool Job Value) : Pool Job Value :=
  { pool with active := false }.tell .info s!"Stopping worker pool '{pool.name}'..."

/-- A pool all of whose workers have stopped. -/
def closed (pool : Pool Job Value) : Pool Job Value :=
  pool.tell .info
    (s!"Worker pool '{pool.name}' stopped. Processed: {pool.board.processed}, "
      ++ s!"Errors: {pool.board.failed}")

/-- A step of the controlling thread or of a worker. -/
inductive Step (run : Job → State → Except Failure Value × State) :
    Site Job Value State → Event Job Value → Site Job Value State → Prop where
  | start {site : Site Job Value State}
      (free : site.control = .free) :
      Step run site .started { site with pool := site.pool.start }
  /-- A submission to a queue that has room. -/
  | submit {site : Site Job Value State} {key : String} {job : Job} {submission : Submission}
      {pool : Pool Job Value}
      (free : site.control = .free)
      (taken : site.pool.submit key job = .ok (submission, pool))
      (entered : submission.blocked = false) :
      Step run site (.accepted ⟨submission.ticket, key, job⟩) { site with pool }
  | refuse {site : Site Job Value State} {key : String} {job : Job} {failure : Failure}
      (free : site.control = .free)
      (refused : site.pool.submit key job = .error failure) :
      Step run site (.refused failure) site
  | cancel {site : Site Job Value State} {ticket : Nat} {pool : Pool Job Value}
      (taken : site.pool.cancel ticket = (true, pool)) :
      Step run site (.cancelled ticket) { site with pool }
  | keep {site : Site Job Value State} {ticket : Nat} {pool : Pool Job Value}
      (taken : site.pool.cancel ticket = (false, pool)) :
      Step run site (.kept ticket) { site with pool }
  | stop {site : Site Job Value State}
      (free : site.control = .free)
      (active : site.pool.active = true) :
      Step run site .stopping { site with pool := site.pool.closing, control := .stopping 0 }
  /-- The sign to stop for a queue that has room. -/
  | ask {site : Site Job Value State} {asked : Nat} {pool : Pool Job Value}
      (stopping : site.control = .stopping asked)
      (entered : site.pool.offer asked .stop = (true, pool)) :
      Step run site (.asked asked) { site with pool, control := .stopping (asked + 1) }
  | join {site : Site Job Value State}
      (stopping : site.control = .stopping site.pool.workers.length)
      (stopped : ∀ worker ∈ site.pool.workers, worker.stopped = true) :
      Step run site .stopped { site with pool := site.pool.closed, control := .free }
  | take {site : Site Job Value State} {index : Nat} {worker next : Worker Job}
      {board : Board Value}
      (found : site.pool.workers[index]? = some worker)
      (taken : worker.take? site.pool.board = some (next, board)) :
      Step run site (worker.taking site.pool.board)
        { site with pool := { site.pool with workers := site.pool.workers.set index next, board } }
  | finish {site : Site Job Value State} {index : Nat} {worker next : Worker Job}
      {item : Item Job} {board : Board Value} {state : State}
      (found : site.pool.workers[index]? = some worker)
      (current : worker.current = some item)
      (finished : worker.finish? (fun _ => true) run site.pool.board site.state =
        some (next, board, state)) :
      Step run site (.ended item (run item.job site.state).1)
        { site with
          pool := { site.pool with workers := site.pool.workers.set index next, board }
          state }

/-- A schedule from a site: what is seen of its steps, and the site that it leads to. -/
inductive Schedule
    (run : Job → State → Except Failure Value × State)
    (first : Site Job Value State) : List (Event Job Value) → Site Job Value State → Prop where
  | nil : Schedule run first [] first
  | snoc {events : List (Event Job Value)} {site next : Site Job Value State}
      {event : Event Job Value}
      (schedule : Schedule run first events site)
      (step : Step run site event next) : Schedule run first (events ++ [event]) next

/-- An event in a schedule was seen at a site that the schedule had led to. -/
theorem Schedule.split
    {run : Job → State → Except Failure Value × State}
    {first site : Site Job Value State}
    {events earlier later : List (Event Job Value)}
    {event : Event Job Value}
    (schedule : Schedule run first events site)
    (seen : events = earlier ++ event :: later) :
    ∃ before after, Schedule run first earlier before ∧ Step run before event after := by
  induction schedule generalizing later with
  | nil => simp at seen
  | @snoc events between next last schedule step ih =>
      rcases List.eq_nil_or_concat later with rfl | ⟨front, final, rfl⟩
      · obtain ⟨rfl, same⟩ := List.append_inj' seen rfl
        cases same
        exact ⟨between, next, schedule, step⟩
      · have shape : events ++ [last] = (earlier ++ event :: front) ++ [final] := by
          rw [seen]
          simp
        exact ih (List.append_inj' shape rfl).1

/-! ## What counts of a step -/

/-- What counts of a site: all but names, the log and the history. -/
structure View (Job Value State : Type) where
  workerCount : Nat
  capacity : Int
  active : Bool
  control : Control
  workers : List (Worker Job)
  tickets : List (Ticket Value)
  submitted : Nat
  processed : Nat
  failed : Nat
  state : State

/-- What counts of a site. -/
def Site.view (site : Site Job Value State) : View Job Value State where
  workerCount := site.pool.workerCount
  capacity := site.pool.capacity
  active := site.pool.active
  control := site.control
  workers := site.pool.workers
  tickets := site.pool.board.tickets
  submitted := site.pool.board.submitted
  processed := site.pool.board.processed
  failed := site.pool.board.failed
  state := site.state

/-- Whether an item ended with a value. -/
def succeeded (result : Except Failure Value) : Bool :=
  match result with
  | .ok _ => true
  | .error _ => false

/-- What a step changes. -/
inductive Shift (run : Job → State → Except Failure Value × State) (view : View Job Value State) :
    Event Job Value → View Job Value State → Prop where
  | start
      (free : view.control = .free)
      (inactive : view.active = false) :
      Shift run view .started
        { view with
          active := true
          workers := (List.range view.workerCount).map fun index => { index } }
  /-- A pool that runs is not started again. -/
  | warn
      (free : view.control = .free)
      (active : view.active = true) :
      Shift run view .started view
  | submit {worker : Worker Job} {key : String} {job : Job}
      (free : view.control = .free)
      (active : view.active = true)
      (found : view.workers[workerIndex key view.workerCount]? = some worker)
      (room : worker.hasRoom view.capacity = true) :
      Shift run view (.accepted ⟨view.tickets.length, key, job⟩)
        { view with
          workers := view.workers.set (workerIndex key view.workerCount)
            { worker with queue := worker.queue ++ [.work ⟨view.tickets.length, key, job⟩] }
          tickets := view.tickets ++ [.pending]
          submitted := view.submitted + 1 }
  | refuse {failure : Failure}
      (free : view.control = .free)
      (inactive : view.active = false) :
      Shift run view (.refused failure) view
  | cancel {ticket : Nat}
      (waits : view.tickets[ticket]? = some .pending ∨ view.tickets[ticket]? = some .cancelled) :
      Shift run view (.cancelled ticket) { view with tickets := view.tickets.set ticket .cancelled }
  | keep {ticket : Nat} : Shift run view (.kept ticket) view
  | stop
      (free : view.control = .free)
      (active : view.active = true) :
      Shift run view .stopping { view with active := false, control := .stopping 0 }
  | ask {worker : Worker Job} {asked : Nat}
      (stopping : view.control = .stopping asked)
      (found : view.workers[asked]? = some worker)
      (room : worker.hasRoom view.capacity = true) :
      Shift run view (.asked asked)
        { view with
          workers := view.workers.set asked { worker with queue := worker.queue ++ [.stop] }
          control := .stopping (asked + 1) }
  | join
      (stopping : view.control = .stopping view.workers.length)
      (stopped : ∀ worker ∈ view.workers, worker.stopped = true) :
      Shift run view .stopped { view with control := .free }
  | begin {worker : Worker Job} {index : Nat} {item : Item Job} {queue : List (Entry Job)}
      (found : view.workers[index]? = some worker)
      (idle : worker.current = none)
      (shape : worker.queue = .work item :: queue)
      (wanted : ∀ ticket, view.tickets[item.ticket]? = some ticket → ticket ≠ .cancelled) :
      Shift run view (.begun item)
        { view with
          workers := view.workers.set index { worker with queue, current := some item }
          tickets := view.tickets.set item.ticket .running }
  | drop {worker : Worker Job} {index : Nat} {item : Item Job} {queue : List (Entry Job)}
      (found : view.workers[index]? = some worker)
      (idle : worker.current = none)
      (shape : worker.queue = .work item :: queue)
      (unwanted : view.tickets[item.ticket]? = some .cancelled) :
      Shift run view (.dropped item)
        { view with workers := view.workers.set index { worker with queue } }
  | leave {worker : Worker Job} {index number : Nat} {queue : List (Entry Job)}
      (found : view.workers[index]? = some worker)
      (idle : worker.current = none)
      (shape : worker.queue = .stop :: queue) :
      Shift run view (.left number)
        { view with workers := view.workers.set index { worker with queue, stopped := true } }
  | finish {worker : Worker Job} {index : Nat} {item : Item Job}
      (found : view.workers[index]? = some worker)
      (current : worker.current = some item) :
      Shift run view (.ended item (run item.job view.state).1)
        { view with
          workers := view.workers.set index { worker with current := none }
          tickets := view.tickets.set item.ticket (.finished (run item.job view.state).1)
          processed := view.processed + (succeeded (run item.job view.state).1).toNat
          failed := view.failed + (!succeeded (run item.job view.state).1).toNat
          state := (run item.job view.state).2 }

/-- An entry that is let into a queue stands at its end. -/
theorem offer_eq_true
    {pool next : Pool Job Value}
    {index : Nat}
    {entry : Entry Job}
    (entered : pool.offer index entry = (true, next)) :
    ∃ worker, pool.workers[index]? = some worker ∧ worker.hasRoom pool.capacity = true
      ∧ next = { pool with
        workers := pool.workers.set index { worker with queue := worker.queue ++ [entry] }
        board := pool.board.countIn entry } := by
  unfold offer at entered
  cases found : pool.workers[index]? with
  | none => simp [found] at entered
  | some worker =>
      simp only [found, Worker.offer] at entered
      split at entered
      · next free =>
          cases entered
          exact ⟨worker, rfl, (Bool.and_eq_true_iff.mp free).1, rfl⟩
      · cases entered

/-- A job that is let into a queue gets the next ticket. -/
theorem submit_eq_ok
    {pool next : Pool Job Value}
    {key : String}
    {job : Job}
    {submission : Submission}
    (taken : pool.submit key job = .ok (submission, next))
    (entered : submission.blocked = false) :
    pool.active = true ∧ submission.ticket = pool.board.tickets.length
      ∧ ∃ worker, pool.workers[workerIndex key pool.workerCount]? = some worker
        ∧ worker.hasRoom pool.capacity = true
        ∧ next = { pool with
          workers := pool.workers.set (workerIndex key pool.workerCount)
            { worker with queue := worker.queue ++ [.work ⟨pool.board.tickets.length, key, job⟩] }
          board := pool.board.issue.2.countIn
            (.work (⟨pool.board.tickets.length, key, job⟩ : Item Job)) } := by
  unfold submit at taken
  split at taken
  · next active =>
      simp only [Board.issue] at taken
      cases offered : ({ pool with
          board := { pool.board with tickets := pool.board.tickets ++ [.offered] } } :
            Pool Job Value).offer (workerIndex key pool.workerCount)
          (.work ⟨pool.board.tickets.length, key, job⟩) with
      | mk let_in after =>
          rw [offered] at taken
          cases taken
          have isIn : let_in = true := by simpa using entered
          rw [isIn] at offered
          obtain ⟨worker, found, room, rfl⟩ := offer_eq_true offered
          exact ⟨active, rfl, worker, found, room, rfl⟩
  · cases taken

theorem submit_eq_error
    {pool : Pool Job Value}
    {key : String}
    {job : Job}
    {failure : Failure}
    (refused : pool.submit key job = .error failure) : pool.active = false := by
  unfold submit at refused
  split at refused
  · cases refused
  · next inactive => simpa using inactive

theorem cancel_eq_true
    {pool next : Pool Job Value}
    {ticket : Nat}
    (taken : pool.cancel ticket = (true, next)) :
    (pool.board.tickets[ticket]? = some .pending ∨ pool.board.tickets[ticket]? = some .cancelled)
      ∧ next = { pool with board := pool.board.setTicket ticket .cancelled } := by
  unfold cancel at taken
  split at taken
  · next waits =>
      cases taken
      exact ⟨.inl waits, rfl⟩
  · next waits =>
      cases taken
      exact ⟨.inr waits, rfl⟩
  all_goals cases taken

theorem cancel_eq_false
    {pool next : Pool Job Value}
    {ticket : Nat}
    (taken : pool.cancel ticket = (false, next)) : next = pool := by
  unfold cancel at taken
  split at taken
  all_goals cases taken
  all_goals rfl

theorem isCancelled_iff
    {board : Board Value}
    {ticket : Nat} :
    board.isCancelled ticket = true ↔ board.tickets[ticket]? = some .cancelled := by
  unfold Board.isCancelled
  split
  · next cancelled => simp [cancelled]
  · next other => simpa using other

/-- What a worker takes: an item that is wanted or not, or the sign to stop. -/
theorem shift_of_take?
    {run : Job → State → Except Failure Value × State}
    {site : Site Job Value State}
    {index : Nat}
    {worker next : Worker Job}
    {board : Board Value}
    (found : site.pool.workers[index]? = some worker)
    (taken : worker.take? site.pool.board = some (next, board)) :
    Shift run site.view (worker.taking site.pool.board)
      { site with
        pool := { site.pool with workers := site.pool.workers.set index next, board } }.view := by
  unfold Worker.take? at taken
  split at taken
  · cases taken
  · next ready =>
      obtain ⟨-, idle⟩ : worker.stopped = false ∧ worker.current = none := by simpa using ready
      unfold Worker.taking
      split at taken
      · cases taken
      · next queue shape =>
          cases taken
          simp only [shape]
          exact .leave found idle shape
      · next item queue shape =>
          simp only [shape]
          split at taken
          · next unwanted =>
              cases taken
              rw [if_pos unwanted]
              exact .drop found idle shape (isCancelled_iff.mp unwanted)
          · next wanted =>
              cases taken
              rw [if_neg wanted]
              refine .begin found idle shape ?_
              rintro ticket isTicket rfl
              exact wanted (isCancelled_iff.mpr isTicket)

theorem shift_of_finish?
    {run : Job → State → Except Failure Value × State}
    {site : Site Job Value State}
    {index : Nat}
    {worker next : Worker Job}
    {item : Item Job}
    {board : Board Value}
    {state : State}
    (found : site.pool.workers[index]? = some worker)
    (current : worker.current = some item)
    (finished : worker.finish? (fun _ => true) run site.pool.board site.state =
      some (next, board, state)) :
    Shift run site.view (.ended item (run item.job site.state).1)
      { site with
        pool := { site.pool with workers := site.pool.workers.set index next, board }
        state }.view := by
  simp only [Worker.finish?, current, if_true] at finished
  cases finished
  have shift := @Shift.finish _ _ _ run site.view worker index item found current
  unfold Board.finish
  cases ended : (run item.job site.state).1 with
  | ok value => simpa [Site.view, ended, succeeded, Board.setTicket] using shift
  | error failure => simpa [Site.view, ended, succeeded, Board.setTicket, Board.tell] using shift

/-- What a step changes is settled by what is seen of it. -/
theorem shift_of_step
    {run : Job → State → Except Failure Value × State}
    {site next : Site Job Value State}
    {event : Event Job Value}
    (step : Step run site event next) : Shift run site.view event next.view := by
  cases step with
  | start free =>
      unfold start
      split
      · next active => exact .warn free active
      · next inactive => exact .start free (Bool.eq_false_iff.mpr inactive)
  | @submit key job _ _ free taken entered =>
      obtain ⟨active, ticket, worker, found, room, rfl⟩ := submit_eq_ok taken entered
      rw [ticket]
      have shift := @Shift.submit _ _ _ run site.view worker key job free active found room
      simpa [Site.view, Board.issue, Board.countIn, Board.setTicket] using shift
  | refuse free refused => exact .refuse free (submit_eq_error refused)
  | cancel taken =>
      obtain ⟨waits, rfl⟩ := cancel_eq_true taken
      exact .cancel waits
  | keep taken =>
      obtain rfl := cancel_eq_false taken
      exact .keep
  | stop free active => exact .stop free active
  | ask stopping entered =>
      obtain ⟨worker, found, room, rfl⟩ := offer_eq_true entered
      exact .ask stopping found room
  | join stopping stopped => exact .join stopping stopped
  | take found taken => exact shift_of_take? found taken
  | finish found current finished => exact shift_of_finish? found current finished

end Pool
end Fulfilment
