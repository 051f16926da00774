import Fulfilment.Proofs.Pool.Progress

/-!
# Conduct of a pool

However the steps of the controlling thread and of the workers are interleaved, items of one key
run one at a time and in order, every accepted item runs once unless it was taken back in time,
its ticket tells how its own job ended, no queue is overfull, a failing job harms nothing else,
and a pool that has stopped has nothing left.
-/

namespace Fulfilment
namespace Pool

/-- The conduct of a pool by the end of a schedule. -/
structure Orderly
    (run : Job → State → Except Failure Value × State)
    (name : String)
    (capacity : Int)
    (first : State)
    (events : List (Event Job Value))
    (site : Site Job Value State) : Prop where
  /-- Accepted items have the next ticket each. -/
  numbered : (accepted events).map Item.ticket = List.range site.pool.board.tickets.length
  /-- All that was seen is about accepted items. -/
  known : ∀ (event : Event Job Value) (ticket : Nat), event ∈ events →
    event.ticket? = some ticket → ∃ item, .accepted item ∈ events ∧ item.ticket = ticket
  /-- An accepted item waits, runs, has run once to the end that its ticket tells, or was taken back
  and never began. -/
  told : ∀ item, .accepted item ∈ events → ∃ ticket, site.pool.ticket? item.ticket = some ticket
    ∧ Story item (story events item.ticket) ticket
  /-- When an item begins, those of its key that were accepted before it have ended or were taken
  back. -/
  inOrder : ∀ (earlier later : List (Event Job Value)) (item other : Item Job),
    events = earlier ++ .begun item :: later → .accepted other ∈ events → other.key = item.key →
      other.ticket < item.ticket →
        (∃ result, .ended other result ∈ earlier) ∨ .cancelled other.ticket ∈ earlier
  /-- Items that run at the same time have different keys. -/
  apart : ∀ (index other : Nat) (worker another : Worker Job) (item beside : Item Job),
    site.pool.workers[index]? = some worker → site.pool.workers[other]? = some another →
      worker.current = some item → another.current = some beside → item.key = beside.key →
        index = other
  /-- Each result is that of the item's own job, run once. -/
  performed : performAll run ((ended events).map fun entry => entry.1.job) first =
    ((ended events).map Prod.snd, site.state)
  /-- No queue is overfull. -/
  room : 0 < capacity → ∀ worker ∈ site.pool.workers, (worker.queue.length : Int) ≤ capacity
  /-- However an item ends, its worker goes on with the rest of its queue, and nothing changes for
  the other workers and items. -/
  unharmed : ∀ (item : Item Job) (result : Except Failure Value) (next : Site Job Value State),
    Step run site (.ended item result) next →
      ∃ (index : Nat) (worker : Worker Job), site.pool.workers[index]? = some worker
        ∧ worker.current = some item ∧ worker.stopped = false
        ∧ next.pool.workers = site.pool.workers.set index { worker with current := none }
        ∧ ∀ ticket, ticket ≠ item.ticket → next.pool.ticket? ticket = site.pool.ticket? ticket
  /-- A pool that does not run refuses every submission, -/
  refuses : site.pool.active = false → ∀ (key : String) (job : Job),
    site.pool.submit key job = .error (.badState s!"Worker pool '{name}' is not running")
  /-- and a refusal changes nothing. -/
  refused : ∀ (failure : Failure) (next : Site Job Value State),
    Step run site (.refused failure) next → site.pool.active = false ∧ next = site
  /-- A pool that runs accepts every submission to a queue that has room. -/
  accepts : site.control = .free → site.pool.active = true → ∀ (key : String) (job : Job),
    ∃ worker, site.pool.workers[workerIndex key site.pool.workerCount]? = some worker
      ∧ (worker.hasRoom capacity = true →
        ∃ next, Step run site (.accepted ⟨site.pool.board.tickets.length, key, job⟩) next)
  /-- Stopping comes to an end: some step is possible until then, and there are only so many. -/
  stops : ∀ asked, site.control = .stopping asked →
    (∃ event next, Step run site event next ∧ (event.byWorker || event.byStop) = true)
      ∧ ∀ later last, Schedule run site later last → .stopped ∉ later →
        (later.countP fun event => !event.recalls) ≤ site.view.work
  /-- Once it has stopped, every item has ended or was taken back, -/
  settled : site.control = .free → site.pool.active = false → ∀ item, .accepted item ∈ events →
    (∃ result, site.pool.ticket? item.ticket = some (.finished result))
      ∨ site.pool.ticket? item.ticket = some .cancelled
  /-- and the counts add up. -/
  counted : site.control = .free → site.pool.active = false →
    site.pool.board.submitted = (accepted events).length
      ∧ site.pool.board.submitted = site.pool.board.processed + site.pool.board.failed
        + site.pool.board.tickets.countP Ticket.isCancelled
  /-- No worker of an earlier start is left. -/
  alone : site.pool.former = []

variable
  {Job Value State : Type}
  {run : Job → State → Except Failure Value × State}
  {events : List (Event Job Value)}
  {view : View Job Value State}
  {first site next : Site Job Value State}
  {event : Event Job Value}
  {item : Item Job}

/-- What no step changes of a pool: its name, its sizes, and that no worker of an earlier start is
left. -/
theorem Step.fixed
    (step : Step run site event next)
    (staffed : Staffed site.view) :
    next.pool.name = site.pool.name ∧ next.pool.capacity = site.pool.capacity
      ∧ next.pool.workerCount = site.pool.workerCount
      ∧ (site.pool.former = [] → next.pool.former = []) := by
  cases step with
  | start free =>
      unfold Pool.start
      split
      · exact ⟨rfl, rfl, rfl, id⟩
      · next inactive =>
          have stopped := staffed.rested free (Bool.eq_false_iff.mpr inactive)
          have none : site.pool.workers.filter (fun worker => !worker.stopped) = [] := by
            refine List.filter_eq_nil_iff.mpr fun worker member => ?_
            simp [stopped worker member]
          exact ⟨rfl, rfl, rfl, fun alone => by simp [tell, alone, none]⟩
  | submit free taken entered =>
      obtain ⟨-, -, worker, -, -, rfl⟩ := submit_eq_ok taken entered
      exact ⟨rfl, rfl, rfl, id⟩
  | cancel taken =>
      obtain ⟨-, rfl⟩ := cancel_eq_true taken
      exact ⟨rfl, rfl, rfl, id⟩
  | keep taken =>
      obtain rfl := cancel_eq_false taken
      exact ⟨rfl, rfl, rfl, id⟩
  | ask stopping entered =>
      obtain ⟨worker, -, -, rfl⟩ := offer_eq_true entered
      exact ⟨rfl, rfl, rfl, id⟩
  | refuse | stop | join | take | finish => exact ⟨rfl, rfl, rfl, id⟩

/-- What no schedule changes of a pool. -/
theorem Schedule.fixed
    (schedule : Schedule run first events site)
    (regular : Regular [] first.view) :
    site.pool.name = first.pool.name ∧ site.pool.capacity = first.pool.capacity
      ∧ site.pool.workerCount = first.pool.workerCount
      ∧ (first.pool.former = [] → site.pool.former = []) := by
  induction schedule with
  | nil => exact ⟨rfl, rfl, rfl, id⟩
  | snoc schedule step ih =>
      obtain ⟨name, capacity, count, alone⟩ := ih
      obtain ⟨nextName, nextCapacity, nextCount, nextAlone⟩ :=
        step.fixed (schedule.regular regular).staffed
      exact ⟨nextName.trans name, nextCapacity.trans capacity, nextCount.trans count,
        fun none => nextAlone (alone none)⟩

/-- When an item begins, those of its key that were accepted before it are over. -/
theorem Schedule.inOrder
    {earlier later : List (Event Job Value)}
    {other : Item Job}
    (schedule : Schedule run first events site)
    (regular : Regular [] first.view)
    (seen : events = earlier ++ .begun item :: later)
    (isAccepted : .accepted other ∈ events)
    (key : other.key = item.key)
    (before : other.ticket < item.ticket) :
    (∃ result, .ended other result ∈ earlier) ∨ .cancelled other.ticket ∈ earlier := by
  obtain ⟨between, after, prior, step⟩ := schedule.split seen
  have lined := (schedule.regular regular).lined
  have reached := prior.regular regular
  obtain ⟨index, rest, shape⟩ := (shift_of_step step).lane_of_begun
  have inLane : item ∈ lane between.view.workers index := by
    rw [shape]
    exact List.mem_cons_self
  have itemAccepted := mem_accepted.mp (reached.lined.of_mem_lane inLane).1
  rw [seen] at lined isAccepted
  have otherAccepted := lined.accepted_of_lt itemAccepted isAccepted before
  have isHandled :=
    reached.lined.handled_of_lt shape (mem_accepted.mpr otherAccepted) key before
  exact (reached.told.ended_of_handled otherAccepted isHandled).1

/-- What changes when an item ends. -/
theorem Shift.of_ended
    {next : View Job Value State}
    {result : Except Failure Value}
    (shift : Shift run view (.ended item result) next) :
    ∃ (index : Nat) (worker : Worker Job), view.workers[index]? = some worker
      ∧ worker.current = some item
      ∧ next.workers = view.workers.set index { worker with current := none }
      ∧ next.tickets = view.tickets.set item.ticket (.finished result) := by
  cases shift with
  | @finish worker index item found current => exact ⟨index, worker, found, current, rfl, rfl⟩

/-- An item that ends leaves its worker going, and the other workers and tickets as they are. -/
theorem Step.unharmed
    {result : Except Failure Value}
    (step : Step run site (.ended item result) next)
    (staffed : Staffed site.view) :
    ∃ (index : Nat) (worker : Worker Job), site.pool.workers[index]? = some worker
      ∧ worker.current = some item ∧ worker.stopped = false
      ∧ next.pool.workers = site.pool.workers.set index { worker with current := none }
      ∧ ∀ ticket, ticket ≠ item.ticket → next.pool.ticket? ticket = site.pool.ticket? ticket := by
  obtain ⟨index, worker, found, current, workers, tickets⟩ := (shift_of_step step).of_ended
  have going := (staffed.sound index worker found).not_stopped_of_current current
  refine ⟨index, worker, found, current, going, workers, fun ticket differs => ?_⟩
  change next.view.tickets[ticket]? = site.view.tickets[ticket]?
  rw [tickets, List.getElem?_set_ne (Ne.symm differs)]

theorem Worker.taking_ne_refused
    (worker : Worker Job)
    (board : Board Value)
    (failure : Failure) : worker.taking board ≠ .refused failure := by
  unfold Worker.taking
  split
  · split <;> exact fun impossible => nomatch impossible
  · exact fun impossible => nomatch impossible
  · exact fun impossible => nomatch impossible

/-- A refusal is that of a pool that does not run, and changes nothing. -/
theorem Step.of_refused
    {failure : Failure}
    (step : Step run site (.refused failure) next) : site.pool.active = false ∧ next = site := by
  generalize isEvent : Event.refused failure = event at step
  cases step with
  | refuse free refused => exact ⟨submit_eq_error refused, rfl⟩
  | take found taken => exact absurd isEvent.symm (Worker.taking_ne_refused _ _ _)
  | start | submit | cancel | keep | stop | ask | join | finish => cases isEvent

/-- Every schedule of a new pool is orderly. -/
theorem orderly_of_schedule
    {name : String}
    {workerCount capacity : Int}
    {pool : Pool Job Value}
    {state : State}
    (created : create? name workerCount capacity = .ok pool)
    (schedule : Schedule run ⟨pool, .free, state⟩ events site) :
    Orderly run name capacity state events site := by
  have start : Regular [] (⟨pool, .free, state⟩ : Site Job Value State).view :=
    regular_of_create? created state
  have regular := schedule.regular start
  obtain ⟨isName, isCapacity, isCount, isAlone⟩ := schedule.fixed start
  obtain ⟨positive, rfl⟩ := create?_eq_ok created
  change site.pool.capacity = capacity at isCapacity
  refine ⟨regular.lined.numbered, fun event ticket => regular.told.exists_accepted,
    fun item => regular.told.of_accepted, fun earlier later item other => schedule.inOrder start,
    fun index other worker another item beside => regular.lined.apart, schedule.performed,
    fun bounded => ?_, fun item result next step => step.unharmed regular.staffed,
    fun inactive key job => ?_, fun failure next step => step.of_refused,
    fun free active key job => ?_, fun asked stopping => ⟨?_, fun later last more unstopped => ?_⟩,
    fun free inactive item isAccepted => ?_, fun free inactive => ⟨?_, ?_⟩, isAlone rfl⟩
  · have room := regular.staffed.room
    rw [show site.view.capacity = capacity from isCapacity] at room
    exact room bounded
  · simp [submit, inactive, isName]
  · rw [← isCapacity]
    exact regular.staffed.accepts free active (isCount ▸ positive) key job
  · exact exists_step_of_stopping regular.staffed stopping
  · exact Nat.le_of_add_right_le (more.bounded stopping unstopped).2
  · exact regular.settled free inactive isAccepted
  · rw [← List.length_map (Item.ticket), regular.lined.numbered, List.length_range]
    exact regular.counted.submitted
  · exact regular.balanced free inactive

/-- One worker has all keys. -/
theorem workerIndex_one (key : String) : workerIndex key 1 = 0 :=
  Nat.mod_one _

/-- A job that counts how often it was run, and ends with the count or with a failure. -/
def count
    (succeeds : Bool)
    (runs : Nat) : Except Failure Nat × Nat :=
  (if succeeds then .ok runs else .error (.badValue "no success"), runs + 1)

/-- One worker with room for one item fails at the first item while the second waits, is taken back
and dropped; then the pool is stopped. -/
theorem orderly_of_schedule_dropped :
    ∃ (pool : Pool Bool Nat) (site : Site Bool Nat Nat),
      create? "numbers" 1 1 = .ok pool
        ∧ site.pool.board.tickets = [.finished (.error (.badValue "no success")), .cancelled]
        ∧ Orderly count "numbers" 1 0
          [.started, .accepted ⟨0, "first", false⟩, .begun ⟨0, "first", false⟩,
            .accepted ⟨1, "second", true⟩, .cancelled 1,
            .ended ⟨0, "first", false⟩ (.error (.badValue "no success")), .stopping,
            .dropped ⟨1, "second", true⟩, .asked 0, .left 0, .stopped] site := by
  have created : create? "numbers" 1 1 =
      .ok ({ name := "numbers", workerCount := 1, capacity := 1 } : Pool Bool Nat) := rfl
  have new := @Schedule.nil Bool Nat Nat count
    ⟨{ name := "numbers", workerCount := 1, capacity := 1 }, .free, 0⟩
  have started := new.snoc (.start rfl)
  have first := started.snoc (.submit rfl
    (@submit_of_hasRoom _ _ (start { name := "numbers", workerCount := 1, capacity := 1 }) "first"
      0 _ rfl (workerIndex_one _) rfl rfl rfl false) rfl)
  have begun := first.snoc (@Step.take _ _ _ _ _ 0 _ _ _ rfl rfl)
  have second := begun.snoc (.submit rfl
    (@submit_of_hasRoom _ _
      { name := "numbers", workerCount := 1, capacity := 1, active := true
        workers := [{ index := 0, current := some ⟨0, "first", false⟩ }]
        board := { tickets := [.running], submitted := 1, history := [(0, 0)], log := _ } } "second"
      0 _ rfl (workerIndex_one _) rfl rfl rfl true) rfl)
  have cancelled := second.snoc (@Step.cancel _ _ _ _ _ 1 _ rfl)
  have ended := cancelled.snoc (@Step.finish _ _ _ _ _ 0 _ _ _ _ _ rfl rfl rfl)
  have stopping := ended.snoc (.stop rfl rfl)
  have dropped := stopping.snoc (@Step.take _ _ _ _ _ 0 _ _ _ rfl rfl)
  have asked := dropped.snoc (.ask rfl rfl)
  have left := asked.snoc (@Step.take _ _ _ _ _ 0 _ _ _ rfl rfl)
  have stopped := left.snoc (.join rfl fun worker member => by
    cases List.mem_singleton.mp member
    rfl)
  exact ⟨_, _, created, rfl, orderly_of_schedule created stopped⟩

end Pool
end Fulfilment
