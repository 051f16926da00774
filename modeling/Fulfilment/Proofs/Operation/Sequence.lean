import Fulfilment.Proofs.Consumer.Discipline
import Fulfilment.Proofs.Consumer.Execution
import Fulfilment.Proofs.Operation.Alone

/-!
# Runs one after the other

Runs of the program that follow one another over the same tables and the same broker are an
operation in which no two workers are ever at a record at the same time.  Each move of a run is a
step, but for the end of a record, before which the worker dispatches it undisturbed.
-/

namespace Fulfilment

namespace Consumer

/-- A move ends the record that a worker has at hand, as its job ends, or it ends no record and
leaves the service. -/
theorem Move.ends_or
    {handler : Handler Rec}
    {world next : World Rec}
    {notices : List (Notice Rec)}
    (move : Move handler world notices next) :
    (∃ worker ∈ world.running.consumer.pool.workers, ∃ item, worker.current = some item
        ∧ notices = [.pooled (.ended item (handler.job item.job world.running.service).1)]
        ∧ next.running.service = (handler.job item.job world.running.service).2)
      ∨ (∀ item result, .pooled (.ended item result) ∉ notices)
        ∧ next.running.service = world.running.service := by
  have stepped {event : Pool.Event Rec Dispatch.Outcome}
      {site : Pool.Site Rec Dispatch.Outcome Service}
      (phase : Phase Rec)
      (step : Pool.Step handler.job world.site event site) :
      (∃ worker ∈ world.running.consumer.pool.workers, ∃ item, worker.current = some item
          ∧ [Notice.pooled event] =
            [.pooled (.ended item (handler.job item.job world.running.service).1)]
          ∧ (world.stepped site phase).running.service =
            (handler.job item.job world.running.service).2)
        ∨ (∀ item result, .pooled (.ended item result) ∉ [Notice.pooled event])
          ∧ (world.stepped site phase).running.service = world.running.service := by
    rcases (Pool.shift_of_step step).ends_or with ⟨worker, member, item, current, rfl, state⟩ |
      ⟨none, state⟩
    · exact .inl ⟨worker, member, item, current, rfl, state⟩
    · refine .inr ⟨fun item result member => none item result ?_, state⟩
      exact (Notice.pooled.inj (List.mem_singleton.mp member)).symm
  cases move with
  | give giving step => exact stepped _ step
  | work byWorker step | stop ending byStop step => exact stepped _ step
  | commit awaiting tallied committed | failToCommit awaiting tallied committed =>
      have asked := asked_commit world.running
      rw [committed] at asked
      exact .inr ⟨by simp, asked.service⟩
  | pollNothing | poll | wait | collect | fail | cease | failToPoll | close =>
      exact .inr ⟨by simp, rfl⟩
  | refuse => exact .inr ⟨by simp, rfl⟩

/-- The pool of a run can be created. -/
theorem Execution.create?_eq_ok (execution : Execution) :
    Pool.create? execution.poolName execution.workerCount execution.capacity =
      .ok ({
        name := execution.poolName
        workerCount := execution.workerCount
        capacity := execution.capacity } : Pool Record Dispatch.Outcome) := by
  have staffed := execution.staffed
  rw [Pool.create?, if_neg (by omega), Int.toNat_natCast]

end Consumer

namespace Operation

open Fulfilment.Consumer (Course Execution Handler Move Notice Stage conductAll pooled)

variable
  {Run : Type}
  {topic : String}
  {retries : Run → Int}
  {start state : State Run}
  {run : Run}
  {service : Service}
  {trace notices : List (Notice Record)}
  {first world next : Consumer.World Record}

/-- Nothing was done about the record of a ticket. -/
structure State.IsUntouched
    (state : State Run)
    (run : Run)
    (ticket : Nat) : Prop where
  waiting : state.dispatching run ticket = .waiting
  begun : ∀ left task, state.attempts run ticket left task = .begun

/-- A service is at rest when a run begins. -/
theorem Mirrors.begin
    (mirrors : Mirrors topic state service)
    (execution : Execution) : Mirrors topic state (execution.begin service) :=
  ⟨⟨mirrors.rests.store, mirrors.rests.faults⟩, mirrors.idle, mirrors.sent, mirrors.topic⟩

variable [DecidableEq Run]

/-- Where consumers are says nothing about records. -/
theorem State.IsUntouched.turn
    {ticket : Nat}
    {other : Run}
    (untouched : state.IsUntouched other ticket)
    (run : Run)
    (world : Consumer.World Record) : (state.turn run world).IsUntouched other ticket :=
  ⟨untouched.waiting, untouched.begun⟩

/-- A state mirrors a service wherever consumers are. -/
theorem Mirrors.turn
    (mirrors : Mirrors topic state service)
    (run : Run)
    (world : Consumer.World Record) : Mirrors topic (state.turn run world) service :=
  ⟨mirrors.rests, mirrors.idle, mirrors.sent, mirrors.topic⟩

/-- Dispatching the record of a ticket leaves what nothing was done about. -/
theorem Leads.isUntouched
    {ticket otherTicket : Nat}
    {other : Run}
    {dispatching : Dispatching}
    {last : State Run}
    (leads : Leads topic retries state run ticket dispatching service last)
    (differs : ¬ (other = run ∧ otherTicket = ticket))
    (untouched : state.IsUntouched other otherTicket) : last.IsUntouched other otherTicket where
  waiting := (leads.elsewhere other otherTicket differs).trans untouched.waiting
  begun left task := (leads.untouched ⟨other, otherTicket, left, task⟩ differs).trans
    (untouched.begun left task)

/-- A state that is reached when one run has come to a world: a service at rest, nothing done about
records that have not ended, and the other runs where they were. -/
structure Follows
    (topic : String)
    (retries : Run → Int)
    (start : State Run)
    (run : Run)
    (trace : List (Notice Record))
    (world : Consumer.World Record)
    (state : State Run) : Prop where
  reaches : Reaches topic retries start state
  consumer : state.consumer run = world
  mirrors : Mirrors topic state world.running.service
  untouched : ∀ ticket, (∀ item result, .ended item result ∈ pooled trace → item.ticket ≠ ticket) →
    state.IsUntouched run ticket
  others : ∀ other, other ≠ run → state.consumer other = start.consumer other
    ∧ ∀ ticket, start.IsUntouched other ticket → state.IsUntouched other ticket

namespace Follows

/-- A step of the consumer of the run, after steps about records that have ended by then. -/
theorem turn
    {between : State Run}
    (follows : Follows topic retries start run trace world state)
    (reaches : Reaches topic retries state between)
    (consumer : between.consumer = state.consumer)
    (kept : ∀ other ticket,
      (other = run → ∀ item result, .ended item result ∈ pooled notices → item.ticket ≠ ticket) →
        state.IsUntouched other ticket → between.IsUntouched other ticket)
    (mirrors : Mirrors topic between next.running.service)
    (step : Step topic retries between (between.turn run next)) :
    Follows topic retries start run (trace ++ notices) next (between.turn run next) where
  reaches := .step (follows.reaches.trans reaches) step
  consumer := between.consumer_turn_same run next
  mirrors := mirrors.turn run next
  untouched ticket unended := by
    refine (kept run ticket (fun _ item result ended => unended item result ?_)
      (follows.untouched ticket fun item result ended => unended item result ?_)).turn run next
    · simp [ended]
    · simp [ended]
  others other differs := by
    obtain ⟨same, untouched⟩ := follows.others other differs
    refine ⟨?_, fun ticket still => ?_⟩
    · rw [State.consumer_turn_other differs, consumer, same]
    · exact (kept other ticket (fun same => absurd same differs) (untouched ticket still)).turn run
        next

/-- A step of the consumer of the run at which no record ends. -/
theorem quiet
    (follows : Follows topic retries start run trace world state)
    (step : Step topic retries state (state.turn run next))
    (mirrors : Mirrors topic state next.running.service) :
    Follows topic retries start run (trace ++ notices) next (state.turn run next) :=
  follows.turn .refl rfl (fun _ _ _ => id) mirrors step

/-- The end of a record that was dispatched. -/
theorem ended
    {item : Pool.Item Record}
    {result : Except Failure Dispatch.Outcome}
    {between : State Run}
    (follows : Follows topic retries start run trace world state)
    (leads : Leads topic retries state run item.ticket (.ended result) next.running.service between)
    (move : Move (.ofService (retries run)) world [.pooled (.ended item result)] next) :
    Follows topic retries start run (trace ++ [.pooled (.ended item result)]) next
      (between.turn run next) := by
  have moved : Step topic retries between (between.turn run next) := by
    rw [← follows.consumer, ← leads.consumer] at move
    refine .move run rfl move fun other otherResult member => ?_
    cases List.mem_singleton.mp member
    exact leads.dispatching
  refine follows.turn leads.reaches leads.consumer (fun other ticket unended still => ?_)
    leads.mirrors moved
  exact leads.isUntouched
    (fun same => unended same.1 item result (by simp) same.2.symm) still

/-- A move of the run goes on from a state that follows it. -/
theorem move
    {handler : Handler Record}
    (follows : Follows topic retries start run trace world state)
    (stage : Stage handler trace world.site.view world.phase)
    (move : Move (.ofService (retries run)) world notices next) :
    ∃ last, Follows topic retries start run (trace ++ notices) next last := by
  rcases move.ends_or with ⟨worker, member, item, current, rfl, service⟩ | ⟨none, service⟩
  · have atHand : state.IsAtHand run item := by
      rw [State.IsAtHand, follows.consumer]
      exact ⟨worker, member, current⟩
    have told := stage.regular.told
    have untouched := follows.untouched item.ticket fun other result ended =>
      told.ticket_ne_of_running ((told.marked worker member).current item current) ended
    have performed : (Dispatch.dispatch (retries run) item.job).perform world.running.service =
        (((Handler.ofService (retries run)).job item.job world.running.service).1,
          next.running.service) := Prod.ext rfl service.symm
    obtain ⟨between, leads⟩ :=
      leads_dispatch follows.mirrors atHand untouched.waiting untouched.begun performed
    exact ⟨_, follows.ended leads move⟩
  · have moved : Step topic retries state (state.turn run next) := by
      rw [← follows.consumer] at move
      exact .move run rfl move fun item result member => absurd member (none item result)
    refine ⟨_, follows.quiet moved ?_⟩
    rw [service]
    exact follows.mirrors

/-- A course of the run goes on from a state that follows it. -/
theorem course
    (follows : Follows topic retries start run [] first state)
    (stage : Stage (.ofService (retries run)) [] first.site.view first.phase)
    (course : Course (.ofService (retries run)) first trace world) :
    ∃ last, Follows topic retries start run trace world last := by
  induction course with
  | nil => exact ⟨state, follows⟩
  | snoc course move ih =>
      obtain ⟨between, follows⟩ := ih
      exact follows.move (course.stage stage) move
  | @interrupt trace world course busy message ih =>
      obtain ⟨between, follows⟩ := ih
      have interrupted : Step topic retries between (between.turn run
          { world with phase := .ending (some (.interrupt message)) }) := by
        rw [← follows.consumer] at busy ⊢
        exact .interrupt run busy message
      rw [← List.append_nil trace]
      exact ⟨_, follows.quiet interrupted follows.mirrors⟩
  | @log trace world course poolLog log ih =>
      obtain ⟨between, follows⟩ := ih
      have logged : Step topic retries between (between.turn run (world.logging poolLog log)) := by
        rw [← follows.consumer]
        exact .log run poolLog log
      rw [← List.append_nil trace]
      exact ⟨_, follows.quiet logged (follows.mirrors.log log)⟩

end Follows

variable
  {execution : Run → Execution}
  {runs : List Run}

/-- A run that has not begun. -/
structure State.Awaits
    (execution : Run → Execution)
    (state : State Run)
    (run : Run) : Prop where
  consumer : ∃ given, state.consumer run = ⟨⟨(execution run).subscriber, given⟩, .free, .polling⟩
  untouched : ∀ ticket, state.IsUntouched run ticket

/-- A run of the program goes on from a state in which nobody is at anything, and the other runs
wait meanwhile. -/
theorem exists_reaches_conduct
    (mirrors : Mirrors topic state service)
    (awaits : state.Awaits execution run) :
    ∃ last, Reaches topic (fun run => (execution run).retries) state last
      ∧ last.calls run = ((execution run).conduct service).1
      ∧ Mirrors topic last ((execution run).conduct service).2
      ∧ ∀ other, other ≠ run → last.consumer other = state.consumer other
        ∧ ∀ ticket, state.IsUntouched other ticket → last.IsUntouched other ticket := by
  let begun : Consumer.World Record :=
    ⟨⟨(execution run).subscriber, (execution run).begin service⟩, .free, .polling⟩
  obtain ⟨given, consumer⟩ := awaits.consumer
  have served : Step topic (fun run => (execution run).retries) state (state.turn run begun) := by
    have step : Step topic (fun run => (execution run).retries) state _ :=
      .serve run ((execution run).begin service)
    rwa [consumer] at step
  have follows : Follows topic (fun run => (execution run).retries) state run [] begun
      (state.turn run begun) := {
    reaches := .step .refl served
    consumer := state.consumer_turn_same run begun
    mirrors := (mirrors.begin (execution run)).turn run begun
    untouched := fun ticket _ => (awaits.untouched ticket).turn run begun
    others := fun other differs => ⟨State.consumer_turn_other differs state begun,
      fun ticket still => still.turn run begun⟩ }
  obtain ⟨trace, after, failure, course, conducted⟩ := (execution run).course service
  obtain ⟨last, ended⟩ := follows.course
    (Consumer.stage_of_start (execution run).create?_eq_ok rfl) course
  refine ⟨last, ended.reaches, ?_, ?_, ended.others⟩
  · rw [State.calls, ended.consumer, conducted]
  · rw [conducted]
    exact ended.mirrors

/-- Runs of the program that follow one another are an operation. -/
theorem exists_reaches_conductAll
    (nodup : runs.Nodup)
    (mirrors : Mirrors topic state service)
    (awaits : ∀ run ∈ runs, state.Awaits execution run) :
    ∃ last, Reaches topic (fun run => (execution run).retries) state last
      ∧ runs.map last.calls = (conductAll (runs.map execution) service).1
      ∧ Mirrors topic last (conductAll (runs.map execution) service).2
      ∧ ∀ run ∉ runs, last.consumer run = state.consumer run := by
  induction runs generalizing state service with
  | nil => exact ⟨state, .refl, rfl, mirrors, fun _ _ => rfl⟩
  | cons run runs ih =>
      obtain ⟨absent, nodup⟩ := List.nodup_cons.mp nodup
      obtain ⟨between, reaches, calls, mirrored, others⟩ :=
        exists_reaches_conduct mirrors (awaits run (.head _))
      have waiting (other : Run) (member : other ∈ runs) : between.Awaits execution other := by
        obtain ⟨consumer, untouched⟩ := others other (ne_of_mem_of_not_mem member absent)
        have still := awaits other (.tail _ member)
        refine ⟨?_, fun ticket => untouched ticket (still.untouched ticket)⟩
        rw [consumer]
        exact still.consumer
      obtain ⟨last, further, later, mirrors, kept⟩ := ih nodup mirrored waiting
      refine ⟨last, reaches.trans further, ?_, mirrors, fun other outside => ?_⟩
      · rw [List.map_cons, later, State.calls, kept run absent]
        exact congrArg (· :: _) calls
      · rw [kept other (List.not_mem_of_not_mem_cons outside),
          (others other (List.ne_of_not_mem_cons outside)).1]

end Operation
end Fulfilment
