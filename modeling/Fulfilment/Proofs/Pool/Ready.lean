import Fulfilment.Pool.Basic

/-!
# Pools that are ready

When all workers wait and each job may finish, a submitted job is run at once: it is run exactly
once, its ticket tells how it ended, and the workers wait again.  A pool without work in its queues
stops without running anything.
-/

namespace Fulfilment
namespace Pool

namespace Worker

variable
  {capacity : Int}
  {mayFinish : Job → Bool}
  {run : Job → State → Except Failure Value × State}

theorem settle_waiting
    (index : Nat)
    (board : Board Value)
    (state : State) :
    settle capacity mayFinish run { index } board state = ({ index }, board, state) := rfl

/-- A worker with one entry in its queue. -/
def withEntry
    (index : Nat)
    (entry : Entry Job) : Worker Job :=
  { index, queue := [entry] }

/-- A worker with one item in its queue runs it, and waits again. -/
theorem settle_withEntry
    {board : Board Value}
    {item : Item Job}
    (kept : board.isCancelled item.ticket = false)
    (index : Nat)
    (state : State) :
    settle capacity (fun _ => true) run (withEntry index (.work item)) board state =
      ({ index },
        (board.begin index item.ticket).finish index item (run item.job state).1,
        (run item.job state).2) := by
  have taken : step? capacity (fun _ => true) run (withEntry index (.work item)) board state =
      some ({ index, current := some item }, board.begin index item.ticket, state) := by
    simp [step?, finish?, letIn?, take?, withEntry, kept]
  have finished (begun : Board Value) :
      step? capacity (fun _ => true) run { index, current := some item } begun state =
        some ({ index }, begun.finish index item (run item.job state).1,
          (run item.job state).2) := rfl
  have ended (done : Board Value) (state : State) :
      step? capacity (fun _ => true) run { index } done state = none := rfl
  simp only [settle, stepBound, withEntry, List.length_nil, List.length_singleton, runFrom]
  simp only [withEntry] at taken
  simp only [taken, finished, ended]

/-- No item stands with a worker; at most it is asked to stop. -/
structure HasNoWork (worker : Worker Job) : Prop where
  current : worker.current = none
  queue : ∀ item, Entry.work item ∉ worker.queue
  waiting : ∀ item, Entry.work item ∉ worker.waiting

theorem HasNoWork.letIn?
    {worker next : Worker Job}
    {board told : Board Value}
    (idle : worker.HasNoWork)
    (moved : letIn? capacity worker board = some (next, told)) : next.HasNoWork := by
  unfold Worker.letIn? at moved
  cases waits : worker.waiting with
  | nil => simp [waits] at moved
  | cons entry waiting =>
      have waited := idle.waiting
      rw [waits] at waited
      simp only [waits] at moved
      split at moved
      · cases moved
        refine ⟨idle.current, fun item member => ?_,
          fun item member => waited item (.tail _ member)⟩
        rcases List.mem_append.mp member with member | member
        · exact idle.queue item member
        · rw [← List.mem_singleton.mp member] at waited
          exact waited item (.head _)
      · cases moved

theorem HasNoWork.take?
    {worker next : Worker Job}
    {board told : Board Value}
    (idle : worker.HasNoWork)
    (taken : take? worker board = some (next, told)) : next.HasNoWork := by
  unfold Worker.take? at taken
  split at taken
  · cases taken
  · cases queue : worker.queue with
    | nil => simp [queue] at taken
    | cons entry rest =>
        have queued := idle.queue
        rw [queue] at queued
        cases entry with
        | work item => exact absurd (.head _) (queued item)
        | stop =>
            simp only [queue, Option.some.injEq, Prod.mk.injEq] at taken
            obtain ⟨rfl, -⟩ := taken
            exact ⟨idle.current, fun item member => queued item (.tail _ member), idle.waiting⟩

theorem HasNoWork.step?
    {worker next : Worker Job}
    {board told : Board Value}
    {state after : State}
    (idle : worker.HasNoWork)
    (stepped : step? capacity mayFinish run worker board state = some (next, told, after)) :
    after = state ∧ next.HasNoWork := by
  simp only [Worker.step?, finish?, idle.current] at stepped
  cases moved : Worker.letIn? capacity worker board with
  | some entered =>
      simp only [moved, Option.some_or, Option.some.injEq, Prod.mk.injEq] at stepped
      obtain ⟨rfl, -, rfl⟩ := stepped
      exact ⟨rfl, idle.letIn? moved⟩
  | none =>
      simp only [moved, Option.none_or] at stepped
      cases taken : Worker.take? worker board with
      | none => simp [taken] at stepped
      | some entered =>
          simp only [taken, Option.some.injEq, Prod.mk.injEq] at stepped
          obtain ⟨rfl, -, rfl⟩ := stepped
          exact ⟨rfl, idle.take? taken⟩

theorem HasNoWork.runFrom
    {worker : Worker Job}
    (idle : worker.HasNoWork)
    (fuel : Nat)
    (board : Board Value)
    (state : State) :
    (runFrom capacity mayFinish run fuel worker board state).2.2 = state := by
  induction fuel generalizing worker board state with
  | zero => rfl
  | succ fuel ih =>
      simp only [Worker.runFrom]
      split
      · next next told after stepped =>
          obtain ⟨rfl, still⟩ := idle.step? stepped
          exact ih still told _
      · rfl

/-- A worker without work may be asked to stop. -/
theorem HasNoWork.offer_stop
    {worker : Worker Job}
    (idle : worker.HasNoWork)
    (board : Board Value) : (worker.offer capacity board .stop).2.1.HasNoWork := by
  unfold Worker.offer
  split
  · refine ⟨idle.current, fun item member => ?_, idle.waiting⟩
    rcases List.mem_append.mp member with member | member
    · exact idle.queue item member
    · cases List.mem_singleton.mp member
  · refine ⟨idle.current, idle.queue, fun item member => ?_⟩
    rcases List.mem_append.mp member with member | member
    · exact idle.waiting item member
    · cases List.mem_singleton.mp member

end Worker

variable
  {capacity : Int}
  {mayFinish : Job → Bool}
  {run : Job → State → Except Failure Value × State}

/-- Workers without work run nothing. -/
theorem settleAll_of_hasNoWork
    {workers : List (Worker Job)}
    (idle : ∀ worker ∈ workers, worker.HasNoWork)
    (board : Board Value)
    (state : State) :
    (settleAll capacity mayFinish run workers board state).2.2 = state := by
  induction workers generalizing board state with
  | nil => rfl
  | cons worker rest ih =>
      have first : (worker.settle capacity mayFinish run board state).2.2 = state :=
        (idle worker (.head _)).runFrom worker.stepBound board state
      have later := ih fun other member => idle other (.tail _ member)
      simp only [settleAll]
      rw [later, first]

/-- No item stands with any worker of a pool. -/
def HasNoWork (pool : Pool Job Value) : Prop :=
  ∀ worker ∈ pool.former ++ pool.workers, worker.HasNoWork

/-- A pool without work settles without running anything. -/
theorem HasNoWork.settle
    {pool : Pool Job Value}
    (idle : pool.HasNoWork)
    (state : State) : (settle mayFinish run pool state).2 = state := by
  simp only [Pool.settle]
  rw [settleAll_of_hasNoWork fun worker member => idle worker (List.mem_append_right _ member),
    settleAll_of_hasNoWork fun worker member => idle worker (List.mem_append_left _ member)]

/-- A pool without work may ask a worker to stop. -/
theorem HasNoWork.offer_stop
    {pool : Pool Job Value}
    (idle : pool.HasNoWork)
    (index : Nat) : (pool.offer index .stop).2.HasNoWork := by
  intro worker member
  cases found : pool.workers[index]? with
  | none =>
      simp only [offer, found] at member
      exact idle worker member
  | some asked =>
      simp only [offer, found] at member
      rcases List.mem_append.mp member with member | member
      · exact idle worker (List.mem_append_left _ member)
      · rcases List.mem_or_eq_of_mem_set member with member | rfl
        · exact idle worker (List.mem_append_right _ member)
        · have belongs := List.mem_append_right pool.former (List.mem_of_getElem? found)
          exact (idle asked belongs).offer_stop _

/-- A pool without work may ask all of its workers to stop. -/
theorem HasNoWork.offerStop
    {pool : Pool Job Value}
    (idle : pool.HasNoWork) : pool.offerStop.HasNoWork := by
  unfold Pool.offerStop
  induction List.range pool.workers.length generalizing pool with
  | nil => exact idle
  | cons index rest ih => exact ih (idle.offer_stop index)

/-- A pool that runs and whose workers all wait for a job. -/
structure IsReady (pool : Pool Job Value) : Prop where
  active : pool.active = true
  former : pool.former = []
  workers : pool.workers = (List.range pool.workerCount).map fun index => { index }
  staffed : 0 < pool.workerCount

/-- A pool that was started for the first time is ready. -/
theorem isReady_start
    {name : String}
    {workerCount : Nat}
    (staffed : 0 < workerCount)
    (capacity : Int) :
    (start { name, workerCount, capacity } : Pool Job Value).IsReady where
  active := rfl
  former := rfl
  workers := rfl
  staffed := staffed

theorem IsReady.hasNoWork
    {pool : Pool Job Value}
    (ready : pool.IsReady) : pool.HasNoWork := by
  intro worker member
  rw [ready.former, ready.workers, List.nil_append] at member
  obtain ⟨index, -, rfl⟩ := List.mem_map.mp member
  exact ⟨rfl, by simp, by simp⟩

/-- A ready pool stops without running anything. -/
theorem IsReady.stop
    {pool : Pool Job Value}
    (ready : pool.IsReady)
    (state : State) : (stop mayFinish run pool state).2 = state := by
  have stopping : ({ pool with active := false }.tell .info
      s!"Stopping worker pool '{pool.name}'...").HasNoWork := ready.hasNoWork
  simp only [Pool.stop, ready.active, if_true]
  exact stopping.offerStop.settle state

theorem settleAll_append
    (earlier later : List (Worker Job))
    (board : Board Value)
    (state : State) :
    settleAll capacity mayFinish run (earlier ++ later) board state =
      let (earlier, board, state) := settleAll capacity mayFinish run earlier board state
      let (later, board, state) := settleAll capacity mayFinish run later board state
      (earlier ++ later, board, state) := by
  induction earlier generalizing board state with
  | nil => rfl
  | cons worker earlier ih => simp only [List.cons_append, settleAll, ih]

theorem settleAll_waiting
    (indices : List Nat)
    (board : Board Value)
    (state : State) :
    settleAll capacity mayFinish run (indices.map fun index => { index }) board state =
      (indices.map fun index => { index }, board, state) := by
  induction indices with
  | nil => rfl
  | cons index indices ih => simp only [List.map_cons, settleAll, Worker.settle_waiting, ih]

/-- Among waiting workers the one with an item runs it, and waits again. -/
theorem settleAll_withEntry
    {board : Board Value}
    {item : Item Job}
    (kept : board.isCancelled item.ticket = false)
    {index workerCount : Nat}
    (inside : index < workerCount)
    (state : State) :
    settleAll capacity (fun _ => true) run
        (((List.range workerCount).map fun index => { index }).set index
          (.withEntry index (.work item))) board state =
      ((List.range workerCount).map fun index => { index },
        (board.begin index item.ticket).finish index item (run item.job state).1,
        (run item.job state).2) := by
  have around : List.range workerCount =
      (List.range workerCount).take index
        ++ index :: (List.range workerCount).drop (index + 1) := by
    have drop := List.drop_eq_getElem_cons (l := List.range workerCount) (by simpa using inside)
    rw [List.getElem_range] at drop
    rw [← drop, List.take_append_drop]
  have spread := congrArg (List.map fun index => ({ index } : Worker Job)) around
  rw [List.map_append, List.map_cons] at spread
  rw [List.set_eq_take_append_cons_drop]
  simp only [List.length_map, List.length_range, inside, if_true]
  rw [← List.map_take, ← List.map_drop, settleAll_append, settleAll_waiting]
  simp only [settleAll, Worker.settle_withEntry kept, settleAll_waiting]
  rw [spread]

namespace Board

/-- The tickets once an item that was just submitted has ended. -/
theorem tickets_finish_begin
    (board : Board Value)
    (worker : Nat)
    (item : Item Job)
    (result : Except Failure Value)
    (last : item.ticket = board.tickets.length) :
    (((board.issue.2.countIn (.work item)).begin worker item.ticket).finish worker item
      result).tickets = board.tickets ++ [.finished result] := by
  cases result <;> simp [issue, countIn, begin, finish, setTicket, tell, last]

end Board

/-- A pool whose worker of an index was just given an item. -/
def withItem
    (pool : Pool Job Value)
    (index : Nat)
    (item : Item Job) : Pool Job Value :=
  { pool with
    workers := pool.workers.set index (.withEntry index (.work item))
    board := pool.board.issue.2.countIn (.work item) }

/-- A ready pool takes a job, for which there is room. -/
theorem IsReady.submit
    {pool : Pool Job Value}
    (ready : pool.IsReady)
    (key : String)
    (job : Job) :
    pool.submit key job =
      .ok (⟨workerIndex key pool.workerCount, pool.board.tickets.length, false⟩,
        pool.withItem (workerIndex key pool.workerCount)
          ⟨pool.board.tickets.length, key, job⟩) := by
  have inside : workerIndex key pool.workerCount < pool.workerCount :=
    Nat.mod_lt _ ready.staffed
  have found : pool.workers[workerIndex key pool.workerCount]? =
      some { index := workerIndex key pool.workerCount } := by
    rw [ready.workers]
    simp [inside]
  have room : Worker.hasRoom pool.capacity
      ({ index := workerIndex key pool.workerCount } : Worker Job) = true := by
    simp only [Worker.hasRoom, List.length_nil, Bool.or_eq_true, decide_eq_true_eq]
    omega
  simp only [Pool.submit, ready.active, if_true, offer, found, Worker.offer, room,
    List.isEmpty_nil, Bool.and_self, List.nil_append, Bool.not_true, withItem]
  rfl

/-- A ready pool runs a job that it was just given, and is ready again. -/
theorem IsReady.settle_withItem
    {pool : Pool Job Value}
    (ready : pool.IsReady)
    {index : Nat}
    (inside : index < pool.workerCount)
    {item : Item Job}
    (last : item.ticket = pool.board.tickets.length)
    (state : State) :
    ∃ board, settle (fun _ => true) run (pool.withItem index item) state =
        ({ pool with board }, (run item.job state).2)
      ∧ board.tickets = pool.board.tickets ++ [.finished (run item.job state).1] := by
  have kept : (pool.board.issue.2.countIn (.work item)).isCancelled item.ticket = false := by
    simp [Board.issue, Board.countIn, Board.setTicket, Board.isCancelled, last]
  refine ⟨_, ?_, Board.tickets_finish_begin _ index item _ last⟩
  simp only [settle, withItem, ready.former, ready.workers, settleAll,
    settleAll_withEntry kept inside, List.filter_nil]

/-- A pool with another board is as ready as it was. -/
theorem IsReady.withBoard
    {pool : Pool Job Value}
    (ready : pool.IsReady)
    (board : Board Value) : ({ pool with board } : Pool Job Value).IsReady :=
  ⟨ready.active, ready.former, ready.workers, ready.staffed⟩

/-- A ready pool runs a submitted job at once, and its last ticket tells how that ended. -/
theorem IsReady.settle_submit
    {pool : Pool Job Value}
    (ready : pool.IsReady)
    (run : Job → State → Except Failure Value × State)
    (key : String)
    (job : Job)
    (state : State) :
    ∃ submission offered board,
      pool.submit key job = .ok (submission, offered)
        ∧ submission.ticket = pool.board.tickets.length
        ∧ settle (fun _ => true) run offered state = ({ pool with board }, (run job state).2)
        ∧ board.tickets = pool.board.tickets ++ [.finished (run job state).1] := by
  have inside : workerIndex key pool.workerCount < pool.workerCount :=
    Nat.mod_lt _ ready.staffed
  obtain ⟨board, settled, tickets⟩ := ready.settle_withItem inside
    (rfl : (⟨pool.board.tickets.length, key, job⟩ : Item Job).ticket = _) state
  exact ⟨_, _, board, ready.submit key job, rfl, settled, tickets⟩

end Pool
end Fulfilment
