import Fulfilment.Proofs.Consumer.Stages

/-!
# Progress of a run

The thread of a consumer does not wait for ever.  Until its run is over some move is possible, and
there are only so many moves before the next poll.
-/

namespace Fulfilment
namespace Consumer

/-- How many steps are left until a pool that runs has stopped. -/
def untilStopped (view : Pool.View Rec Dispatch.Outcome Service) : Nat :=
  view.load + 3 * view.workers.length + 3

/-- How many moves are left until the thread polls again or is over: it gives records to the pool,
waits for them, and stops the pool in the end, while the workers do what they have. -/
def Phase.work
    (phase : Phase Rec)
    (view : Pool.View Rec Dispatch.Outcome Service) : Nat :=
  match phase with
  | .polling => untilStopped view + 1
  | .giving _ tickets left => 4 * left.length + tickets.length + untilStopped view + 2
  | .awaiting _ _ left => left.length + untilStopped view + 1
  | .ending _ =>
      match view.control with
      | .free => if view.active then untilStopped view else 1
      | .stopping _ => view.work + 1
  | .closed _ => 0

/-- How many moves are left until the thread polls again or is over. -/
def World.work (world : World Rec) : Nat :=
  world.phase.work world.site.view

variable
  {handler : Handler Rec}
  {trace notices : List (Notice Rec)}
  {world next : World Rec}
  {view after : Pool.View Rec Dispatch.Outcome Service}
  {phase : Phase Rec}
  {event : Pool.Event Rec Dispatch.Outcome}
  {run : Rec → Service → Except Failure Dispatch.Outcome × Service}

/-! ## Moves use up work -/

/-- A step of a worker uses up work. -/
theorem Stage.work_lt_of_byWorker
    (stage : Stage handler trace view phase)
    (shift : Pool.Shift run view event after)
    (byWorker : event.byWorker = true) : phase.work after < phase.work view := by
  obtain ⟨control, active, -⟩ := shift.of_byWorker byWorker
  obtain ⟨load, length⟩ := shift.load_lt_of_byWorker byWorker
  have sooner : untilStopped after < untilStopped view := by
    unfold untilStopped
    omega
  cases stage with
  | polling | giving | awaiting =>
      simp only [Phase.work]
      omega
  | ending leaving seen handling halting =>
      cases halting with
      | notYet isOpen =>
          simp only [Phase.work, control, active, isOpen.free, isOpen.active, if_true]
          exact sooner
      | stopping isAsked =>
          simp only [Phase.work, Pool.View.work, control, isAsked, length]
          omega
      | stopped free inactive =>
          rw [shift.not_byWorker handling.regular.staffed free inactive] at byWorker
          cases byWorker
  | closed isOver regular free inactive =>
      rw [shift.not_byWorker regular.staffed free inactive] at byWorker
      cases byWorker

/-- A step of the thread while it stops the pool uses up work. -/
theorem work_lt_of_byStop
    {failure : Option Failure}
    (shift : Pool.Shift run view event after)
    (staffed : Pool.Staffed view)
    (byStop : event.byStop = true) :
    (Phase.ending failure : Phase Rec).work after < (Phase.ending failure).work view := by
  cases shift with
  | stop free active =>
      simp only [Phase.work, Pool.View.work, Pool.View.load, untilStopped, free, active, if_true]
      omega
  | @ask worker asked isAsked found room =>
      have less := (Pool.Shift.ask isAsked found room : Pool.Shift run view _ _).work isAsked
      simp only [Pool.Event.recalls, Bool.false_eq_true, if_false] at less
      simp only [Phase.work, isAsked]
      omega
  | join isAsked stopped =>
      have inactive := (staffed.inactive _ isAsked).1
      simp only [Phase.work, Pool.View.work, isAsked, inactive, Bool.false_eq_true, if_false]
      omega
  | start | warn | submit | refuse | cancel | keep | begin | drop | leave | finish => cases byStop

/-- A round that is left by the thread. -/
theorem Stage.work_ending_lt
    (stage : Stage handler trace view phase)
    (loops : phase = .polling ∨ phase.isBusy = true)
    (failure : Option Failure) :
    (Phase.ending failure : Phase Rec).work view < phase.work view := by
  have isOpen : IsOpen view := by
    cases stage with
    | polling rounds handling isOpen => exact isOpen
    | giving inRound => exact inRound.isOpen
    | awaiting inRound => exact inRound.isOpen
    | ending | closed => rcases loops with impossible | impossible <;> cases impossible
  have now : (Phase.ending failure : Phase Rec).work view = untilStopped view := by
    simp only [Phase.work, isOpen.free, isOpen.active, if_true]
  rw [now]
  cases phase with
  | polling | giving | awaiting =>
      simp only [Phase.work]
      omega
  | ending | closed => rcases loops with impossible | impossible <;> cases impossible

/-- Every move uses up work, but a poll and one that leads to a poll. -/
theorem Move.lessens
    (move : Move handler world notices next)
    (stage : Stage handler trace world.site.view world.phase) :
    (∃ records, .called (.poll records) ∈ notices) ∨ next.phase = .polling
      ∨ next.work < world.work := by
  cases move with
  | pollNothing polling none => exact .inl ⟨[], List.mem_cons_self⟩
  | @poll batch polling some => exact .inl ⟨batch.flatten, List.mem_cons_self⟩
  | @give records left tickets record ticket site giving step =>
      obtain ⟨load, length⟩ := (Pool.shift_of_step step).load_of_accepted
      refine .inr (.inr ?_)
      unfold World.work
      rw [giving]
      change (Phase.giving records (tickets ++ [ticket]) left).work site.view < _
      simp only [Phase.work, untilStopped, List.length_append, List.length_cons, List.length_nil]
      omega
  | refuse giving refused =>
      refine .inr (.inr (stage.work_ending_lt (.inr ?_) _))
      rw [giving]
      rfl
  | @wait records tickets giving =>
      refine .inr (.inr ?_)
      unfold World.work
      rw [giving]
      change (Phase.awaiting records [] tickets).work world.site.view < _
      simp only [Phase.work, List.length_nil]
      omega
  | @collect records outcomes ticket left result awaiting ended =>
      refine .inr (.inr ?_)
      unfold World.work
      rw [awaiting]
      change (Phase.awaiting records (outcomes ++ [result]) left).work world.site.view < _
      simp only [Phase.work, List.length_cons]
      omega
  | fail awaiting tallied =>
      refine .inr (.inr (stage.work_ending_lt (.inr ?_) _))
      rw [awaiting]
      rfl
  | commit awaiting tallied committed => exact .inr (.inl rfl)
  | failToCommit awaiting tallied committed =>
      have asked := asked_commit world.running
      rw [committed] at asked
      refine .inr (.inr ?_)
      unfold World.work
      rw [view_of_asked asked]
      refine stage.work_ending_lt (.inr ?_) _
      rw [awaiting]
      rfl
  | work byWorker step =>
      exact .inr (.inr (stage.work_lt_of_byWorker (Pool.shift_of_step step) byWorker))
  | cease polling => exact .inr (.inr (stage.work_ending_lt (.inl polling) _))
  | failToPoll polling => exact .inr (.inr (stage.work_ending_lt (.inl polling) _))
  | @stop failure event site ending byStop step =>
      refine .inr (.inr ?_)
      rw [ending] at stage
      unfold World.work
      simp only [World.stepped, ending]
      exact work_lt_of_byStop (Pool.shift_of_step step) stage.regular.staffed byStop
  | @close failure ending free inactive =>
      refine .inr (.inr ?_)
      have control : world.site.view.control = .free := free
      have isInactive : world.site.view.active = false := inactive
      unfold World.work
      rw [ending]
      change 0 < (Phase.ending failure : Phase Rec).work world.site.view
      simp only [Phase.work, control, isInactive, Bool.false_eq_true, if_false]
      exact Nat.zero_lt_one

/-! ## Some move is possible -/

/-- While the pool is open, a worker with something to do can make a step. -/
theorem exists_move_of_load
    {index : Nat}
    {worker : Pool.Worker Rec}
    (staffed : Pool.Staffed world.site.view)
    (isOpen : IsOpen world.site.view)
    (found : world.site.pool.workers[index]? = some worker)
    (loaded : worker.load ≠ 0) : ∃ notices next, Move handler world notices next := by
  have sound := staffed.sound index worker found
  have unasked : world.site.view.hasAsked index = false := by
    simp [Pool.View.hasAsked, isOpen.free, isOpen.active]
  rw [unasked] at sound
  obtain ⟨event, site, step, byWorker⟩ :=
    Pool.exists_step_of_load found sound.not_stopped_of_not_asked loaded
  exact ⟨_, _, .work byWorker step⟩

/-- A record can be given to the pool, or its worker, whose queue is full, can go on. -/
theorem exists_move_of_giving
    {records left : List Rec}
    {tickets : List Nat}
    {record : Rec}
    (giving : world.phase = .giving records tickets (record :: left))
    (staffed : Pool.Staffed world.site.view)
    (isOpen : IsOpen world.site.view)
    (positive : 0 < world.site.pool.workerCount) :
    ∃ notices next, Move handler world notices next := by
  obtain ⟨worker, found, accepts⟩ :=
    staffed.accepts isOpen.free isOpen.active positive (handler.key record) record
  cases room : worker.hasRoom world.site.pool.capacity with
  | true =>
      obtain ⟨site, step⟩ := accepts room
      exact ⟨_, _, .give giving step⟩
  | false =>
      refine exists_move_of_load staffed isOpen found ?_
      simp only [Pool.Worker.hasRoom, Bool.or_eq_false_iff, decide_eq_false_iff_not] at room
      simp only [Pool.Worker.load]
      omega

/-- The thread need not wait for a ticket for ever: the item has ended, or its worker can go on. -/
theorem exists_move_of_awaiting
    {before : List (Pool.Event Rec Dispatch.Outcome)}
    {records : List Rec}
    {outcomes : List (Except Failure Dispatch.Outcome)}
    {left : List Nat}
    {count index : Nat}
    {events : List (Pool.Event Rec Dispatch.Outcome)}
    (awaiting : world.phase = .awaiting records outcomes ((count + index) :: left))
    (handling : Handling handler count before records events world.site.view)
    (undisturbed : Undisturbed events)
    (isOpen : IsOpen world.site.view)
    (inside : index < records.length) : ∃ notices next, Move handler world notices next := by
  have isAccepted := List.mem_append_right before
    (handling.accepted index _ (List.getElem?_eq_getElem inside))
  have kept (ticket : Nat) : .cancelled ticket ∉ events :=
    fun member => (undisturbed _ member).2 ticket rfl
  rcases handling.regular.lined.handled_or_mem_lane isAccepted with isHandled | inLane
  · have isTold := (handling.regular.told.ended_of_handled isAccepted isHandled).2
    rcases isTold with ⟨result, ended⟩ | cancelled
    · exact ⟨_, _, .collect awaiting ended⟩
    · exact absurd cancelled (handling.not_cancelled kept inside)
  · obtain ⟨worker, found, has⟩ := Pool.mem_lane.mp inLane
    exact exists_move_of_load handling.regular.staffed isOpen found (Pool.Worker.load_ne_zero has)

/-- When all records have ended, the batch is committed, or the thread leaves the loop. -/
theorem exists_move_of_awaited
    {records : List Rec}
    {outcomes : List (Except Failure Dispatch.Outcome)}
    (awaiting : world.phase = .awaiting records outcomes []) :
    ∃ notices next, Move handler world notices next := by
  cases tallied : tally outcomes with
  | error failure => exact ⟨_, _, .fail awaiting tallied⟩
  | ok counts =>
      cases committed : Loop.commit.perform world.running with
      | mk result running =>
          cases result with
          | error failure => exact ⟨_, _, .failToCommit awaiting tallied committed⟩
          | ok value => exact ⟨_, _, .commit awaiting tallied committed⟩

/-- The thread, or a worker, can go on with the stopping of the pool. -/
theorem exists_move_of_ending
    {failure : Option Failure}
    (ending : world.phase = .ending failure)
    (staffed : Pool.Staffed world.site.view) : ∃ notices next, Move handler world notices next := by
  cases control : world.site.control with
  | free =>
      cases active : world.site.pool.active with
      | true => exact ⟨_, _, .stop ending rfl (.stop control active)⟩
      | false => exact ⟨_, _, .close ending control active⟩
  | stopping asked =>
      obtain ⟨event, site, step, mover⟩ := Pool.exists_step_of_stopping staffed control
      rcases Bool.or_eq_true_iff.mp mover with byWorker | byStop
      · exact ⟨_, _, .work byWorker step⟩
      · exact ⟨_, _, .stop ending byStop step⟩

/-- Until a run is over some move is possible. -/
theorem Stage.exists_move
    (stage : Stage handler trace world.site.view world.phase)
    (positive : 0 < world.site.pool.workerCount)
    (going : ∀ failure, world.phase ≠ .closed failure) :
    ∃ notices next, Move handler world notices next := by
  have regular := stage.regular
  cases isPhase : world.phase with
  | polling => exact ⟨_, _, .cease isPhase⟩
  | giving records tickets left =>
      cases left with
      | nil => exact ⟨_, _, .wait isPhase⟩
      | cons record left =>
          rw [isPhase] at stage
          cases stage with
          | giving inRound =>
              exact exists_move_of_giving isPhase regular.staffed inRound.isOpen positive
  | awaiting records outcomes left =>
      cases left with
      | nil => exact exists_move_of_awaited isPhase
      | cons ticket left =>
          have isHere := isPhase
          rw [isPhase] at stage
          cases stage with
          | awaiting inRound length isLeft told =>
              rw [List.length_cons] at length isLeft
              rw [List.range'_succ] at isLeft
              obtain ⟨rfl, -⟩ := List.cons.inj isLeft
              have inside : outcomes.length < records.length := by omega
              exact exists_move_of_awaiting isHere inRound.handling inRound.undisturbed
                inRound.isOpen inside
  | ending failure => exact exists_move_of_ending isPhase regular.staffed
  | closed failure => exact absurd isPhase (going failure)

end Consumer
end Fulfilment
