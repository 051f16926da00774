import Fulfilment.Proofs.Consumer.Turns
import Fulfilment.Proofs.Pool.Conduct

/-!
# Commit discipline of a consumer

A consumer whose pool was just started keeps to its rounds, whatever the workers do meanwhile: it
commits a batch once all of its records were dispatched and none of them failed, and polls again
only then.  However its run ends, the pool is stopped and the consumer closed, once each and in this
order, and nothing is left to be done.  Until then the run goes on.
-/

namespace Fulfilment
namespace Consumer

variable
  {handler : Handler Rec}
  {first world next : World Rec}
  {trace notices : List (Notice Rec)}
  {running : Running Rec}

/-! ## What courses keep -/

theorem Course.stage
    (course : Course handler first trace world)
    (start : Stage handler [] first.site.view first.phase) :
    Stage handler trace world.site.view world.phase := by
  induction course with
  | nil => exact start
  | snoc course move ih => exact ih.move rfl move
  | interrupt course busy message ih => exact ih.interrupt busy message
  | @log trace world course poolLog log ih =>
      exact ih.withState { world.running.service with log }

theorem Move.calls (move : Move handler world notices next) :
    next.running.consumer.calls = world.running.consumer.calls ++ called notices := by
  cases move with
  | pollNothing | poll | close => rfl
  | commit awaiting tallied committed | failToCommit awaiting tallied committed =>
      have asked := asked_commit world.running
      rw [committed] at asked
      exact asked.calls
  | give | refuse | wait | collect | fail | work | cease | failToPoll | stop =>
      exact (List.append_nil _).symm

/-- What was seen of the calls of a consumer is what it was asked. -/
theorem Course.calls (course : Course handler first trace world) :
    world.running.consumer.calls = first.running.consumer.calls ++ called trace := by
  induction course with
  | nil => exact (List.append_nil _).symm
  | snoc course move ih => rw [move.calls, ih, called_append, List.append_assoc]
  | interrupt course busy message ih => exact ih
  | log course poolLog log ih => exact ih

/-! ## Commits that fail -/

/-- The fault of the commit that comes after so many others. -/
def Subscriber.commitFault?
    (consumer : Subscriber Rec)
    (number : Nat) : Option Failure :=
  (consumer.commitFaults.drop number).headD consumer.commitFailure

/-- How many commits a consumer was asked for. -/
def commits (calls : List (ConsumerCall Rec)) : Nat :=
  calls.countP fun call =>
    match call with
    | .commit => true
    | .poll _ | .close => false

/-- A commit meets the first fault, and leaves the others. -/
theorem commitFault?_of_commit
    {next : Running Rec}
    {result : Except Failure Unit}
    (committed : Loop.commit.perform running = (result, next)) :
    (∀ number, next.consumer.commitFault? number = running.consumer.commitFault? (number + 1))
      ∧ ∀ failure, result = .error failure → running.consumer.commitFault? 0 = some failure := by
  have noted : (Loop.note .commit).perform running =
      (.ok (), ((Loop.note .commit).perform running).2) := rfl
  rw [Loop.commit, Change.perform_bind_of_ok _ noted] at committed
  simp only [Loop.nextCommitFault, Change.perform_bind, Change.perform_get, Change.perform_set,
    Change.perform_pure] at committed
  have behind (faults : List (Option Failure)) (number : Nat) :
      faults.tail.drop number = faults.drop (number + 1) := by
    rw [← List.drop_one, List.drop_drop, Nat.add_comm]
  split at committed
  · next failure met =>
      cases committed
      refine ⟨fun number => congrArg (List.headD · _) (behind _ number), fun other same => ?_⟩
      cases same
      exact met
  · next met =>
      cases committed
      refine ⟨fun number => congrArg (List.headD · _) (behind _ number), fun other same => ?_⟩
      cases same

/-- The faults to come are those behind the commits that were asked for, and a commit that is seen
to fail has met the next one. -/
theorem Move.commitFault?
    (move : Move handler world notices next) :
    (∀ number, next.running.consumer.commitFault? number =
        world.running.consumer.commitFault? (number + commits (called notices)))
      ∧ ∀ failure, .uncommitted failure ∈ notices →
        world.running.consumer.commitFault? 0 = some failure ∧ 0 < commits (called notices) := by
  cases move with
  | commit awaiting tallied committed =>
      exact ⟨(commitFault?_of_commit committed).1, fun failure impossible => by simp at impossible⟩
  | failToCommit awaiting tallied committed =>
      obtain ⟨rest, met⟩ := commitFault?_of_commit committed
      refine ⟨rest, fun failure member => ⟨met failure ?_, Nat.one_pos⟩⟩
      obtain rfl : failure = _ := by simpa using member
      rfl
  | pollNothing | poll | close | give | refuse | wait | collect | fail | work | cease | failToPoll
    | stop => exact ⟨fun number => rfl, fun failure impossible => by simp at impossible⟩

/-- A commit that is seen to fail has met the fault that the consumer had for it. -/
theorem Course.commitFault?
    (course : Course handler first trace world) :
    (∀ number, world.running.consumer.commitFault? number =
        first.running.consumer.commitFault? (number + commits (called trace)))
      ∧ ∀ failure, .uncommitted failure ∈ trace → ∃ number < commits (called trace),
        first.running.consumer.commitFault? number = some failure := by
  induction course with
  | nil => exact ⟨fun number => rfl, fun failure impossible => nomatch impossible⟩
  | @snoc trace notices world next course move ih =>
      obtain ⟨rest, met⟩ := ih
      obtain ⟨later, fails⟩ := move.commitFault?
      have counted : commits (called (trace ++ notices)) =
          commits (called trace) + commits (called notices) := by
        rw [called_append]
        exact List.countP_append
      refine ⟨fun number => ?_, fun failure member => ?_⟩
      · rw [later, rest, counted, Nat.add_assoc, Nat.add_comm (commits (called notices))]
      · rw [counted]
        rcases List.mem_append.mp member with isEarlier | isLast
        · obtain ⟨number, inside, isFault⟩ := met failure isEarlier
          exact ⟨number, Nat.lt_add_right _ inside, isFault⟩
        · obtain ⟨isFault, positive⟩ := fails failure isLast
          rw [rest, Nat.zero_add] at isFault
          exact ⟨_, Nat.lt_add_of_pos_right positive, isFault⟩
  | interrupt course busy message ih => exact ih
  | log course poolLog log ih => exact ih

/-! ## Records that end -/

/-- A record ends as dispatching it ends. -/
theorem Move.result_eq
    {item : Pool.Item Rec}
    {result : Except Failure Dispatch.Outcome}
    (move : Move handler world notices next)
    (member : .pooled (.ended item result) ∈ notices) :
    ((handler.dispatch item.job).perform world.running.service).1 = result := by
  cases move with
  | work byWorker step =>
      obtain rfl := Notice.pooled.inj (List.mem_singleton.mp member)
      exact (Pool.shift_of_step step).result_eq
  | stop ending byStop step =>
      obtain rfl := Notice.pooled.inj (List.mem_singleton.mp member)
      cases byStop
  | pollNothing | poll | give | refuse | wait | collect | fail | commit | failToCommit | cease
    | failToPoll | close => simp at member

/-- Every record has ended as dispatching it ended. -/
theorem Course.exists_result_eq
    {item : Pool.Item Rec}
    {result : Except Failure Dispatch.Outcome}
    (course : Course handler first trace world)
    (member : .pooled (.ended item result) ∈ trace) :
    ∃ service, ((handler.dispatch item.job).perform service).1 = result := by
  induction course with
  | nil => cases member
  | snoc course move ih =>
      rcases List.mem_append.mp member with isEarlier | isLast
      · exact ih isEarlier
      · exact ⟨_, move.result_eq isLast⟩
  | interrupt course busy message ih => exact ih member
  | log course poolLog log ih => exact ih member

theorem Move.workerCount
    (move : Move handler world notices next)
    (staffed : Pool.Staffed world.site.view) :
    next.site.pool.workerCount = world.site.pool.workerCount := by
  cases move with
  | give giving step | work byWorker step | stop ending byStop step =>
      exact (step.fixed staffed).2.2.1
  | commit awaiting tallied committed | failToCommit awaiting tallied committed =>
      have asked := asked_commit world.running
      rw [committed] at asked
      exact congrArg Pool.workerCount asked.pool
  | pollNothing | poll | close | refuse | wait | collect | fail | cease | failToPoll => rfl

/-- No worker is lost. -/
theorem Course.workerCount
    (course : Course handler first trace world)
    (start : Stage handler [] first.site.view first.phase) :
    world.site.pool.workerCount = first.site.pool.workerCount := by
  induction course with
  | nil => rfl
  | snoc course move ih => exact (move.workerCount (course.stage start).regular.staffed).trans ih
  | interrupt course busy message ih => exact ih
  | log course poolLog log ih => exact ih

/-- A run that is over makes no further move. -/
theorem Stage.not_move
    {failure : Option Failure}
    (stage : Stage handler trace world.site.view world.phase)
    (isOver : world.phase = .closed failure) : ¬ Move handler world notices next := by
  intro move
  rw [isOver] at stage
  cases stage with
  | closed _ regular free inactive =>
      cases move with
      | work byWorker step =>
          have unmoved := (Pool.shift_of_step step).not_byWorker regular.staffed free inactive
          cases byWorker.symm.trans unmoved
      | pollNothing phase | poll phase | give phase | refuse phase | wait phase | collect phase
        | fail phase | commit phase | failToCommit phase | cease phase | failToPoll phase
        | stop phase | close phase => cases isOver.symm.trans phase

/-! ## The beginning of a run -/

/-- A consumer whose pool was just started is about to poll its first batch. -/
theorem stage_of_start
    {name : String}
    {workerCount capacity : Int}
    {pool : Pool Rec Dispatch.Outcome}
    (created : Pool.create? name workerCount capacity = .ok pool)
    (started : running.consumer.pool = pool.start) :
    Stage handler [] (⟨running, .free, .polling⟩ : World Rec).site.view .polling := by
  have new := @Pool.regular_of_create? Rec Dispatch.Outcome Service _ _ _ _ created running.service
  have start : Pool.Step handler.job ⟨pool, .free, running.service⟩ .started
      ⟨pool.start, .free, running.service⟩ := .start rfl
  obtain ⟨staffed, ⟨numbered, channel⟩, ⟨known, unknown, marked⟩, counted⟩ :=
    new.shift (Pool.shift_of_step start)
  have regular : Pool.Regular []
      (⟨pool.start, .free, running.service⟩ : Pool.Site Rec Dispatch.Outcome Service).view :=
    ⟨staffed, ⟨numbered, channel⟩, ⟨known, unknown, marked⟩, counted⟩
  have view : (⟨running, .free, .polling⟩ : World Rec).site.view =
      (⟨pool.start, .free, running.service⟩ : Pool.Site Rec Dispatch.Outcome Service).view := by
    unfold World.site
    rw [started]
  obtain ⟨-, rfl⟩ := Pool.create?_eq_ok created
  rw [view]
  exact .polling .nil
    ⟨regular, rfl, fun ticket impossible => absurd impossible (Nat.not_lt_zero ticket),
      fun ticket _ => rfl, fun index record impossible => by simp at impossible⟩ ⟨rfl, rfl⟩

/-! ## Discipline -/

/-- What holds of a run at the end of a course. -/
structure Disciplined
    (handler : Handler Rec)
    (first : World Rec)
    (trace : List (Notice Rec))
    (world : World Rec) : Prop where
  /-- When the thread is about to poll, all rounds are complete: every polled record was dispatched
  once, and every batch with a record was then committed once. -/
  rounds : world.phase = .polling → ∃ count, Rounds handler trace count
  /-- While a batch is handled, nothing but dispatching its records has happened since the poll. -/
  handling : world.phase.isBusy = true → ∃ done count records events, Rounds handler done count
    ∧ trace = done ++ .called (.poll records) :: events.map .pooled ∧ Undisturbed events
    ∧ ∀ event ∈ events, ∃ index < records.length, event.ticket? = some (count + index)
  /-- When the run is over its last round has ended, with the failure that the run ends with, the
  pool was stopped and the consumer closed, -/
  closed : ∀ failure, world.phase = .closed failure → Over handler trace failure
  /-- and nothing is left to be done. -/
  rests : ∀ failure, world.phase = .closed failure → ∀ notices next,
    ¬ Move handler world notices next
  /-- Every record has ended as dispatching it ended. -/
  dispatched : ∀ item result, .pooled (.ended item result) ∈ trace →
    ∃ service, ((handler.dispatch item.job).perform service).1 = result
  /-- The consumer was asked what was seen. -/
  calls : world.running.consumer.calls = first.running.consumer.calls ++ called trace
  /-- A commit that failed has met one of the faults that the consumer had for its commits. -/
  uncommitted : ∀ failure, .uncommitted failure ∈ trace → ∃ number < commits (called trace),
    first.running.consumer.commitFault? number = some failure
  /-- Until a run is over some move is possible, -/
  goes : (∀ failure, world.phase ≠ .closed failure) →
    ∃ notices next, Move handler world notices next
  /-- and there are only so many until the next poll. -/
  lessens : ∀ notices next, Move handler world notices next →
    (∃ records, .called (.poll records) ∈ notices) ∨ next.phase = .polling
      ∨ next.work < world.work

theorem Course.disciplined
    (course : Course handler first trace world)
    (start : Stage handler [] first.site.view first.phase)
    (positive : 0 < first.site.pool.workerCount) : Disciplined handler first trace world := by
  have stage := course.stage start
  refine ⟨fun isPolling => ?_, fun busy => ?_, fun failure isOver => ?_,
    fun failure isOver notices next => stage.not_move isOver,
    fun item result => course.exists_result_eq, course.calls, course.commitFault?.2,
    stage.exists_move ((course.workerCount start).symm ▸ positive),
    fun notices next move => move.lessens stage⟩
  · rw [isPolling] at stage
    cases stage with
    | polling rounds => exact ⟨_, rounds⟩
  · cases isPhase : world.phase with
    | polling | ending | closed =>
        rw [isPhase] at busy
        cases busy
    | giving =>
        rw [isPhase] at stage
        cases stage with
        | giving inRound =>
            exact ⟨_, _, _, _, inRound.rounds, inRound.seen, inRound.undisturbed,
              fun event => inRound.about⟩
    | awaiting =>
        rw [isPhase] at stage
        cases stage with
        | awaiting inRound =>
            exact ⟨_, _, _, _, inRound.rounds, inRound.seen, inRound.undisturbed,
              fun event => inRound.about⟩
  · rw [isOver] at stage
    cases stage with
    | closed isOver => exact isOver

/-- However the thread and the workers of a consumer take turns, and whatever is polled, fails or is
interrupted, a consumer whose pool was just started is disciplined.  To run a handler is one such
course, which lasts until the run is over and ends as the run does.  To handle a single batch goes
on with a course, and gives the counts that are seen. -/
theorem disciplined_of_start
    {name : String}
    {workerCount capacity : Int}
    {pool : Pool Rec Dispatch.Outcome}
    (created : Pool.create? name workerCount capacity = .ok pool)
    (started : running.consumer.pool = pool.start)
    (handler : Handler Rec) :
    (∀ trace world, Course handler ⟨running, .free, .polling⟩ trace world →
        Disciplined handler ⟨running, .free, .polling⟩ trace world)
      ∧ (∀ polls ending, ∃ trace after failure,
        Course handler ⟨running, .free, .polling⟩ trace ⟨after, .free, .closed failure⟩
          ∧ (handler.run polls ending).perform running = (resultOf failure, after)
          ∧ HasPolled polls ending failure (called trace))
      ∧ ∀ trace between batch,
        Course handler ⟨running, .free, .polling⟩ trace ⟨between, .free, .polling⟩ →
          between.consumer.pool.IsReady →
            ∃ result after, (handler.pollBatch batch).perform between = (result, after)
              ∧ GoesOn handler ⟨running, .free, .polling⟩ trace [batch.flatten] result after := by
  obtain ⟨positive, isPool⟩ := Pool.create?_eq_ok created
  have start := @stage_of_start _ handler _ _ _ _ _ created started
  subst isPool
  refine ⟨fun trace world course => course.disciplined start ?_,
    course_run ?_ handler, fun trace between batch course ready => course.pollBatch ready batch⟩
  · simp only [World.site, started]
    exact positive
  · rw [started]
    exact Pool.isReady_start positive capacity

/-- A treatment of numbers: zero fails, other even numbers are acknowledged, and odd ones are
dead-lettered. -/
def parity : Handler Nat where
  key _ := "numbers"
  dispatch number :=
    if number = 0 then Change.fail (.badValue "zero")
    else if number % 2 = 0 then return .acknowledged
    else return .deadLettered

/-- A consumer of numbers with one worker, whose queue has room for one of them. -/
def counting : Running Nat where
  consumer :=
    { subscription := "numbers"
      pool := Pool.start { name := "numbers", workerCount := 1, capacity := 1 } }
  service := { clock := ⟨⟨⟨2025, 1, 1, by decide⟩, .midnight⟩⟩ }

/-- What a consumer of numbers polls. -/
def numbers : List (Batch Nat) :=
  [[[1, 2], [4]], [], [[6], [0, 3]], [[8]]]

/-- A batch is committed, nothing is polled, a batch fails, and a last batch is not polled. -/
theorem disciplined_of_start_parity :
    ∃ trace after, ∃ failure : Failure,
      (parity.run numbers none).perform counting = (.error failure, after)
        ∧ failure.message = "zero"
        ∧ after.consumer.calls = [.poll [1, 2, 4], .commit, .poll [], .poll [6, 0, 3], .close]
        ∧ Over parity trace failure := by
  have created : (Pool.create? "numbers" 1 1 : Except Failure (Pool Nat Dispatch.Outcome)) =
      .ok { name := "numbers", workerCount := 1, capacity := 1 } := rfl
  obtain ⟨disciplined, runs, -⟩ := @disciplined_of_start _ counting _ _ _ _ created rfl parity
  obtain ⟨trace, after, failure, course, performed, polled⟩ := runs numbers none
  have asked : ((parity.run numbers none).perform counting).2.consumer.calls =
      [.poll [1, 2, 4], .commit, .poll [], .poll [6, 0, 3], .close] := by decide +kernel
  have told : ((parity.run numbers none).perform counting).1.mapError Failure.message =
      .error "zero" := by decide +kernel
  rw [performed] at asked told
  cases failure with
  | none => cases told
  | some failure =>
      exact ⟨trace, after, failure, performed, Except.error.inj told, asked,
        (disciplined trace _ course).closed failure rfl⟩

end Consumer
end Fulfilment
