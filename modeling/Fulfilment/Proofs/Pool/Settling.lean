import Fulfilment.Proofs.Pool.Progress
import Fulfilment.Proofs.Pool.Ready

/-!
# Settling is a schedule

To settle a pool is to let its workers make their steps, one worker after the other, until none can
make a further step.  To stop a pool that is ready is to ask one worker after the other, to settle
the pool, and to join the workers.  Both are schedules, so what all schedules have in common holds
of them.
-/

namespace Fulfilment
namespace Pool

variable
  {Job Value State : Type}
  {run : Job → State → Except Failure Value × State}
  {site between next : Site Job Value State}
  {events more : List (Event Job Value)}
  {allowed : Event Job Value → Bool}

/-- A schedule goes on from where another one has led. -/
theorem Schedule.append
    (schedule : Schedule run site events between)
    (later : Schedule run between more next) : Schedule run site (events ++ more) next := by
  induction later with
  | nil =>
      rw [List.append_nil]
      exact schedule
  | snoc later step ih =>
      rw [← List.append_assoc]
      exact ih.snoc step

/-- A schedule of steps that are allowed leads from one site to another. -/
def Leads
    (run : Job → State → Except Failure Value × State)
    (allowed : Event Job Value → Bool)
    (site next : Site Job Value State) : Prop :=
  ∃ events, Schedule run site events next ∧ ∀ event ∈ events, allowed event = true

namespace Leads

theorem refl (site : Site Job Value State) : Leads run allowed site site :=
  ⟨[], .nil, fun _ impossible => nomatch impossible⟩

theorem step
    {event : Event Job Value}
    (step : Step run site event next)
    (isAllowed : allowed event = true) : Leads run allowed site next :=
  ⟨[event], Schedule.nil.snoc step, fun other member => by rwa [List.mem_singleton.mp member]⟩

theorem trans
    (leads : Leads run allowed site between)
    (further : Leads run allowed between next) : Leads run allowed site next := by
  obtain ⟨events, schedule, all⟩ := leads
  obtain ⟨more, later, allLater⟩ := further
  refine ⟨events ++ more, schedule.append later, fun event member => ?_⟩
  exact (List.mem_append.mp member).elim (all event) (allLater event)

theorem mono
    {other : Event Job Value → Bool}
    (leads : Leads run allowed site next)
    (weaker : ∀ event, allowed event = true → other event = true) :
    Leads run other site next := by
  obtain ⟨events, schedule, all⟩ := leads
  exact ⟨events, schedule, fun event member => weaker event (all event member)⟩

end Leads

/-! ## Workers that settle -/

/-- A site one of whose workers has gone on, which gave a board and a state. -/
def Site.withWorker
    (site : Site Job Value State)
    (index : Nat)
    (made : Worker Job × Board Value × State) : Site Job Value State :=
  { site with
    pool := { site.pool with workers := site.pool.workers.set index made.1, board := made.2.1 }
    state := made.2.2 }

theorem Site.withWorker_self
    {index : Nat}
    {worker : Worker Job}
    (found : site.pool.workers[index]? = some worker) :
    site.withWorker index (worker, site.pool.board, site.state) = site := by
  have same : site.pool.workers.set index worker = site.pool.workers := by
    obtain ⟨inside, rfl⟩ := List.getElem?_eq_some_iff.mp found
    exact List.set_getElem_self inside
  simp only [withWorker, same]

theorem Site.withWorker_withWorker
    (index : Nat)
    (made again : Worker Job × Board Value × State) :
    (site.withWorker index made).withWorker index again = site.withWorker index again := by
  simp only [withWorker, List.set_set]

theorem waiting_of_take?
    {worker next : Worker Job}
    {board after : Board Value}
    (taken : worker.take? board = some (next, after)) : next.waiting = worker.waiting := by
  unfold Worker.take? at taken
  split at taken
  · cases taken
  · split at taken
    · cases taken
    · cases taken
      rfl
    · split at taken <;> (cases taken; rfl)

theorem byWorker_taking
    (worker : Worker Job)
    (board : Board Value) : (worker.taking board).byWorker = true := by
  unfold Worker.taking
  split
  · split <;> rfl
  · rfl
  · rfl

/-- A worker for whose queue nobody waits finishes its item or takes the next entry. -/
theorem leads_step?
    {index : Nat}
    {worker : Worker Job}
    {made : Worker Job × Board Value × State}
    (found : site.pool.workers[index]? = some worker)
    (unblocked : worker.waiting = [])
    (stepped : worker.step? site.pool.capacity (fun _ => true) run site.pool.board site.state =
      some made) :
    Leads run Event.byWorker site (site.withWorker index made) ∧ made.1.waiting = [] := by
  unfold Worker.step? Worker.letIn? at stepped
  rw [unblocked] at stepped
  cases finished : worker.finish? (fun _ => true) run site.pool.board site.state with
  | some result =>
      rw [finished] at stepped
      cases stepped
      unfold Worker.finish? at finished
      cases current : worker.current with
      | none => simp [current] at finished
      | some item =>
          have isMade := finished
          simp only [current, if_true, Option.some.injEq] at isMade
          refine ⟨.step (.finish found current finished) rfl, ?_⟩
          rw [← isMade]
          exact unblocked
  | none =>
      rw [finished] at stepped
      cases taken : worker.take? site.pool.board with
      | none =>
          rw [taken] at stepped
          cases stepped
      | some result =>
          rw [taken] at stepped
          cases stepped
          refine ⟨.step (.take found taken) (byWorker_taking ..), ?_⟩
          rw [waiting_of_take? taken]
          exact unblocked

/-- The steps of a worker of a pool, for whose queue nobody waits, are steps of a schedule. -/
theorem leads_runFrom
    {index : Nat}
    {worker : Worker Job}
    (found : site.pool.workers[index]? = some worker)
    (unblocked : worker.waiting = [])
    (fuel : Nat) :
    Leads run Event.byWorker site (site.withWorker index
      (worker.runFrom site.pool.capacity (fun _ => true) run fuel site.pool.board site.state)) := by
  induction fuel generalizing site worker with
  | zero =>
      rw [Worker.runFrom, Site.withWorker_self found]
      exact .refl site
  | succ fuel ih =>
      rw [Worker.runFrom]
      cases stepped : worker.step? site.pool.capacity (fun _ => true) run site.pool.board
          site.state with
      | none =>
          rw [Site.withWorker_self found]
          exact .refl site
      | some made =>
          obtain ⟨leads, still⟩ := leads_step? found unblocked stepped
          have inside := (List.getElem?_eq_some_iff.mp found).1
          have again : (site.withWorker index made).pool.workers[index]? = some made.1 := by
            simp [Site.withWorker, inside]
          have further := ih again still
          rw [Site.withWorker_withWorker] at further
          exact leads.trans further

/-- A site the last of whose workers have gone on, which gave a board and a state. -/
def Site.withWorkers
    (site : Site Job Value State)
    (front : List (Worker Job))
    (made : List (Worker Job) × Board Value × State) : Site Job Value State :=
  { site with
    pool := { site.pool with workers := front ++ made.1, board := made.2.1 }
    state := made.2.2 }

/-- Workers that go on one after the other make steps of a schedule. -/
theorem leads_settleAll
    {front rest : List (Worker Job)}
    (workers : site.pool.workers = front ++ rest)
    (unblocked : ∀ worker ∈ rest, worker.waiting = []) :
    Leads run Event.byWorker site (site.withWorkers front
      (settleAll site.pool.capacity (fun _ => true) run rest site.pool.board site.state)) := by
  -- The induction is on the workers that are still to go on; those in front have done so.
  induction rest generalizing site front with
  | nil =>
      have same : site.withWorkers front ([], site.pool.board, site.state) = site := by
        simp only [Site.withWorkers, ← workers]
      rw [settleAll, same]
      exact .refl site
  | cons worker rest ih =>
      have found : site.pool.workers[front.length]? = some worker := by simp [workers]
      have first : Leads run Event.byWorker site (site.withWorker front.length
          (worker.settle site.pool.capacity (fun _ => true) run site.pool.board site.state)) :=
        leads_runFrom found (unblocked worker (.head _)) worker.stepBound
      rw [settleAll]
      generalize worker.settle site.pool.capacity (fun _ => true) run site.pool.board site.state =
        made at first ⊢
      have further := @ih (site.withWorker front.length made) (front ++ [made.1])
        (by simp [Site.withWorker, workers]) fun other member => unblocked other (.tail _ member)
      have whole := first.trans further
      simpa [Site.withWorkers, Site.withWorker] using whole

/-- To settle a pool all of whose workers are of the last start is a schedule of the workers. -/
theorem leads_settle
    (recent : site.pool.former = [])
    (unblocked : ∀ worker ∈ site.pool.workers, worker.waiting = []) :
    Leads run Event.byWorker site
      { site with
        pool := (settle (fun _ => true) run site.pool site.state).1
        state := (settle (fun _ => true) run site.pool site.state).2 } := by
  have leads := @leads_settleAll _ _ _ run site [] _ rfl unblocked
  simpa [Site.withWorkers, settle, recent, settleAll] using leads

/-! ## The stopping of a pool that is ready -/

/-- A worker with the sign to stop at the end of its queue. -/
def Worker.signed (worker : Worker Job) : Worker Job :=
  { worker with queue := worker.queue ++ [.stop] }

/-- A worker that has nothing to do. -/
structure Worker.IsVacant (worker : Worker Job) : Prop where
  current : worker.current = none
  queue : worker.queue = []
  waiting : worker.waiting = []

/-- A vacant worker of a pool lets the sign to stop in. -/
theorem Worker.IsVacant.offer_stop
    {pool : Pool Job Value}
    {index : Nat}
    {worker : Worker Job}
    (vacant : worker.IsVacant)
    (found : pool.workers[index]? = some worker) :
    pool.offer index .stop =
      (true, { pool with workers := pool.workers.set index worker.signed }) := by
  have room : worker.hasRoom pool.capacity = true := by
    simp only [Worker.hasRoom, vacant.queue, List.length_nil, Bool.or_eq_true, decide_eq_true_eq]
    omega
  exact offer_of_hasRoom found room vacant.waiting .stop

/-- Vacant workers may be asked to stop one after the other. -/
theorem leads_offerStop
    {front rest : List (Worker Job)}
    (workers : site.pool.workers = front ++ rest)
    (vacant : ∀ worker ∈ rest, worker.IsVacant)
    (control : site.control = .stopping front.length) :
    (List.range' front.length rest.length).foldl (fun pool index => (pool.offer index .stop).2)
        site.pool = { site.pool with workers := front ++ rest.map Worker.signed }
      ∧ Leads run Event.byStop site
        { site with
          pool := { site.pool with workers := front ++ rest.map Worker.signed }
          control := .stopping (front.length + rest.length) } := by
  -- The induction is on the workers that are still to be asked; those in front have been.
  induction rest generalizing site front with
  | nil =>
      have same : ({ site with
          pool := { site.pool with workers := front }
          control := .stopping front.length } : Site Job Value State) = site := by
        rw [List.append_nil] at workers
        subst workers
        rw [← control]
      rw [List.map_nil, List.append_nil, List.length_nil, Nat.add_zero, same]
      exact ⟨(congrArg Site.pool same).symm, .refl site⟩
  | cons worker rest ih =>
      have found : site.pool.workers[front.length]? = some worker := by simp [workers]
      have offered := (vacant worker (.head _)).offer_stop found
      have asked : Leads run Event.byStop site _ := .step (.ask control offered) rfl
      have set : site.pool.workers.set front.length worker.signed =
          (front ++ [worker.signed]) ++ rest := by simp [workers]
      have length : (front ++ [worker.signed]).length = front.length + 1 := List.length_append
      rw [set] at offered asked
      obtain ⟨folded, further⟩ := @ih
        { site with
          pool := { site.pool with workers := (front ++ [worker.signed]) ++ rest }
          control := .stopping (front.length + 1) }
        (front ++ [worker.signed]) rfl (fun other member => vacant other (.tail _ member))
        (by rw [length])
      rw [length] at folded further
      have whole := asked.trans further
      rw [List.length_cons, List.range'_succ, List.foldl_cons, offered]
      refine ⟨?_, ?_⟩
      · simpa using folded
      · simpa [Nat.add_assoc, Nat.add_comm 1] using whole

variable {capacity : Int} {mayFinish : Job → Bool}

/-- A vacant worker that was asked to stop does so. -/
theorem Worker.IsVacant.stopped_settle
    {worker : Worker Job}
    (vacant : worker.IsVacant)
    (board : Board Value)
    (state : State) :
    (worker.signed.settle capacity mayFinish run board state).1.stopped = true := by
  obtain ⟨index, queue, waiting, current, stopped⟩ := worker
  obtain ⟨rfl, rfl, rfl⟩ := vacant
  cases stopped <;> rfl

theorem length_settleAll
    (workers : List (Worker Job))
    (board : Board Value)
    (state : State) :
    (settleAll capacity mayFinish run workers board state).1.length = workers.length := by
  induction workers generalizing board state with
  | nil => rfl
  | cons worker workers ih =>
      simp only [settleAll, List.length_cons]
      rw [ih]

/-- Vacant workers that were asked to stop do so. -/
theorem stopped_settleAll
    {workers : List (Worker Job)}
    (vacant : ∀ worker ∈ workers, worker.IsVacant)
    (board : Board Value)
    (state : State) :
    ∀ worker ∈ (settleAll capacity mayFinish run (workers.map Worker.signed) board state).1,
      worker.stopped = true := by
  induction workers generalizing board state with
  | nil => simp [settleAll]
  | cons worker workers ih =>
      intro other member
      simp only [List.map_cons, settleAll] at member
      rcases List.mem_cons.mp member with rfl | inside
      · exact (vacant worker (.head _)).stopped_settle board state
      · exact ih (fun other member => vacant other (.tail _ member)) _ _ other inside

theorem IsReady.vacant
    {pool : Pool Job Value}
    (ready : pool.IsReady) : ∀ worker ∈ pool.workers, worker.IsVacant := by
  intro worker member
  rw [ready.workers] at member
  obtain ⟨index, -, rfl⟩ := List.mem_map.mp member
  exact ⟨rfl, rfl, rfl⟩

variable {pool : Pool Job Value}

/-- A ready pool that was told to stop, with a sign to stop in every queue. -/
theorem IsReady.offerStop_closing
    (ready : pool.IsReady)
    (state : State) :
    pool.closing.offerStop = { pool.closing with workers := pool.workers.map Worker.signed }
      ∧ Leads run Event.byStop ⟨pool, .free, state⟩
        ⟨pool.closing.offerStop, .stopping pool.workers.length, state⟩ := by
  have begun : Leads run Event.byStop ⟨pool, .free, state⟩ ⟨pool.closing, .stopping 0, state⟩ :=
    .step (.stop rfl ready.active) rfl
  obtain ⟨offered, asked⟩ := @leads_offerStop _ _ _ run ⟨pool.closing, .stopping 0, state⟩ []
    pool.workers rfl ready.vacant rfl
  rw [List.length_nil, ← List.range_eq_range', List.nil_append] at offered
  rw [List.length_nil, Nat.zero_add, List.nil_append, ← offered] at asked
  exact ⟨offered, begun.trans asked⟩

/-- A ready pool that was told to stop settles. -/
theorem IsReady.leads_settle
    (ready : pool.IsReady)
    (state : State) :
    let settled := settle (fun _ => true) run pool.closing.offerStop state
    settled.1.name = pool.name
      ∧ settled.1.workers.length = pool.workers.length
      ∧ (∀ worker ∈ settled.1.workers, worker.stopped = true)
      ∧ Leads run Event.byWorker
        ⟨pool.closing.offerStop, .stopping pool.workers.length, state⟩
        ⟨settled.1, .stopping pool.workers.length, settled.2⟩ := by
  obtain ⟨offered, -⟩ := @IsReady.offerStop_closing _ _ _ run _ ready state
  have unblocked : ∀ worker ∈ pool.closing.offerStop.workers, worker.waiting = [] := by
    rw [offered]
    intro worker member
    obtain ⟨asked, isMember, rfl⟩ := List.mem_map.mp member
    exact (ready.vacant asked isMember).waiting
  have recent : pool.closing.offerStop.former = [] := by
    rw [offered]
    exact ready.former
  have workers : (settle (fun _ => true) run pool.closing.offerStop state).1.workers =
      (settleAll pool.capacity (fun _ => true) run (pool.workers.map Worker.signed)
        pool.closing.board state).1 := by
    rw [offered]
    simp only [settle, closing, tell, ready.former, settleAll]
  refine ⟨?_, ?_, ?_, @Pool.leads_settle _ _ _ run
    ⟨pool.closing.offerStop, .stopping pool.workers.length, state⟩ recent unblocked⟩
  · rw [offered]
    rfl
  · rw [workers, length_settleAll, List.length_map]
  · rw [workers]
    exact stopped_settleAll ready.vacant _ _

/-- To stop a ready pool is a schedule. -/
theorem IsReady.leads_stop
    (ready : pool.IsReady)
    (state : State) :
    let stopped := Pool.stop (fun _ => true) run pool state
    stopped.1.active = false
      ∧ Leads run (fun event => event.byWorker || event.byStop) ⟨pool, .free, state⟩
        ⟨stopped.1, .free, stopped.2⟩ := by
  obtain ⟨name, length, rested, settled⟩ := @IsReady.leads_settle _ _ _ run _ ready state
  have asked := (@IsReady.offerStop_closing _ _ _ run _ ready state).2
  have isStopped : Pool.stop (fun _ => true) run pool state =
      ((settle (fun _ => true) run pool.closing.offerStop state).1.closed,
        (settle (fun _ => true) run pool.closing.offerStop state).2) := by
    unfold Pool.stop closed
    rw [if_pos ready.active, name]
    rfl
  have inactive : (settle (fun _ => true) run pool.closing.offerStop state).1.active = false := by
    rw [(@IsReady.offerStop_closing _ _ _ run _ ready state).1]
    rfl
  rw [← length] at settled asked
  rw [isStopped]
  generalize settle (fun _ => true) run pool.closing.offerStop state = done
    at settled asked rested inactive ⊢
  have joined : Step run ⟨done.1, .stopping done.1.workers.length, done.2⟩ .stopped
      ⟨done.1.closed, .free, done.2⟩ := .join rfl rested
  refine ⟨inactive, ((asked.mono fun event byStop => ?_).trans
    (settled.mono fun event byWorker => ?_)).trans (.step joined rfl)⟩
  · simp [byStop]
  · simp [byWorker]

/-- A ready pool accepts a job at once, and its workers handle it. -/
theorem IsReady.leads_submit
    (ready : pool.IsReady)
    (key : String)
    (job : Job)
    (state : State) :
    ∃ submission offered, pool.submit key job = .ok (submission, offered)
      ∧ submission.ticket = pool.board.tickets.length ∧ submission.blocked = false
      ∧ Leads run Event.byWorker ⟨offered, .free, state⟩
        ⟨(settle (fun _ => true) run offered state).1, .free,
          (settle (fun _ => true) run offered state).2⟩ := by
  refine ⟨_, _, ready.submit key job, rfl, rfl, @Pool.leads_settle _ _ _ run ⟨_, .free, state⟩
    ready.former fun worker member => ?_⟩
  rcases List.mem_or_eq_of_mem_set member with isOther | rfl
  · exact (ready.vacant worker isOther).waiting
  · rfl

end Pool
end Fulfilment
