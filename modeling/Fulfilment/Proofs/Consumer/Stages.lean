import Fulfilment.Proofs.Consumer.Handling

/-!
# Stages of a run

Where the thread of a consumer is tells what was seen of its run so far.
-/

namespace Fulfilment
namespace Consumer

/-- A pool that runs and that nobody stops. -/
structure IsOpen (view : Pool.View Rec Dispatch.Outcome Service) : Prop where
  free : view.control = .free
  active : view.active = true

/-- What was seen of a loop that was left, apart from the records given in a round that was
interrupted. -/
inductive Leaving (handler : Handler Rec) : List (Notice Rec) → Nat → List Rec →
    List (Pool.Event Rec Dispatch.Outcome) → Option Failure → Prop where
  | idle {trace : List (Notice Rec)} {count : Nat} (failure : Option Failure)
      (rounds : Rounds handler trace count) :
      Leaving handler trace count [] [] failure
  | failed {trace : List (Notice Rec)} {count : Nat} {records : List Rec}
      {results : List (Except Failure Dispatch.Outcome)}
      {events : List (Pool.Event Rec Dispatch.Outcome)} {failure : Failure}
      (rounds : Rounds handler trace count)
      (dispatched : Dispatched handler count records results events)
      (undisturbed : Undisturbed events)
      (isFirst : FirstFailure results failure) :
      Leaving handler (trace ++ .called (.poll records) :: events.map .pooled)
        (count + records.length) [] [] failure
  | uncommitted {trace : List (Notice Rec)} {count : Nat} {records : List Rec}
      {outcomes : List Dispatch.Outcome} {events : List (Pool.Event Rec Dispatch.Outcome)}
      (failure : Failure)
      (rounds : Rounds handler trace count)
      (some : records ≠ [])
      (dispatched : Dispatched handler count records (outcomes.map .ok) events)
      (undisturbed : Undisturbed events) :
      Leaving handler
        (trace ++ (.called (.poll records) :: events.map .pooled
          ++ [.called .commit, .uncommitted failure]))
        (count + records.length) [] [] failure
  | interrupted {trace : List (Notice Rec)} {count : Nat} {records given : List Rec}
      {events : List (Pool.Event Rec Dispatch.Outcome)} (message : String)
      (rounds : Rounds handler trace count)
      (isPrefix : given <+: records)
      (undisturbed : Undisturbed events) :
      Leaving handler (trace ++ [.called (.poll records)]) count given events
        (some (.interrupt message))

/-- How far the stopping of a pool is, by what was seen of it. -/
inductive Halting : List (Pool.Event Rec Dispatch.Outcome) →
    Pool.View Rec Dispatch.Outcome Service → Prop where
  | notYet {view : Pool.View Rec Dispatch.Outcome Service}
      (isOpen : IsOpen view) : Halting [] view
  | stopping {meanwhile : List (Pool.Event Rec Dispatch.Outcome)} {asked : Nat}
      {view : Pool.View Rec Dispatch.Outcome Service}
      (control : view.control = .stopping asked)
      (inactive : view.active = false)
      (stops : ∀ event ∈ meanwhile, Meanwhile event) : Halting (.stopping :: meanwhile) view
  | stopped {meanwhile : List (Pool.Event Rec Dispatch.Outcome)}
      {view : Pool.View Rec Dispatch.Outcome Service}
      (free : view.control = .free)
      (inactive : view.active = false)
      (stops : ∀ event ∈ meanwhile, Meanwhile event) :
      Halting (.stopping :: meanwhile ++ [.stopped]) view

/-- A round in which some of the polled records were given to the pool. -/
structure InRound
    (handler : Handler Rec)
    (trace : List (Notice Rec))
    (view : Pool.View Rec Dispatch.Outcome Service)
    (done : List (Notice Rec))
    (count : Nat)
    (records given : List Rec)
    (events : List (Pool.Event Rec Dispatch.Outcome)) : Prop where
  rounds : Rounds handler done count
  seen : trace = done ++ .called (.poll records) :: events.map .pooled
  nonempty : records ≠ []
  isPrefix : given <+: records
  handling : Handling handler count (pooled done) given events view
  undisturbed : Undisturbed events
  isOpen : IsOpen view

/-- What was seen of a run whose thread is in a phase. -/
inductive Stage
    (handler : Handler Rec)
    (trace : List (Notice Rec))
    (view : Pool.View Rec Dispatch.Outcome Service) : Phase Rec → Prop where
  | polling {count : Nat}
      (rounds : Rounds handler trace count)
      (handling : Handling handler count (pooled trace) [] [] view)
      (isOpen : IsOpen view) : Stage handler trace view .polling
  | giving {done : List (Notice Rec)} {count : Nat} {records given left : List Rec}
      {tickets : List Nat} {events : List (Pool.Event Rec Dispatch.Outcome)}
      (inRound : InRound handler trace view done count records given events)
      (split : given ++ left = records)
      (isTickets : tickets = List.range' count given.length) :
      Stage handler trace view (.giving records tickets left)
  | awaiting {done : List (Notice Rec)} {count : Nat} {records : List Rec}
      {outcomes : List (Except Failure Dispatch.Outcome)} {left : List Nat}
      {events : List (Pool.Event Rec Dispatch.Outcome)}
      (inRound : InRound handler trace view done count records records events)
      (length : outcomes.length + left.length = records.length)
      (isLeft : left = List.range' (count + outcomes.length) left.length)
      (told : ∀ (index : Nat) (result : Except Failure Dispatch.Outcome),
        outcomes[index]? = some result →
          view.tickets[count + index]? = some (.finished result)) :
      Stage handler trace view (.awaiting records outcomes left)
  | ending {front : List (Notice Rec)} {count : Nat} {given : List Rec}
      {events stop : List (Pool.Event Rec Dispatch.Outcome)} {failure : Option Failure}
      (leaving : Leaving handler front count given events failure)
      (seen : trace = front ++ (events ++ stop).map .pooled)
      (handling : Handling handler count (pooled front) given (events ++ stop) view)
      (halting : Halting stop view) : Stage handler trace view (.ending failure)
  | closed {failure : Option Failure}
      (isOver : Over handler trace failure)
      (regular : Pool.Regular (pooled trace) view)
      (free : view.control = .free)
      (inactive : view.active = false) : Stage handler trace view (.closed failure)

variable
  {handler : Handler Rec}
  {trace notices : List (Notice Rec)}
  {world next : World Rec}
  {view after : Pool.View Rec Dispatch.Outcome Service}
  {run : Rec → Service → Except Failure Dispatch.Outcome × Service}
  {event : Pool.Event Rec Dispatch.Outcome}

/-- In every phase the pool is as a schedule keeps it. -/
theorem Stage.regular
    {phase : Phase Rec}
    (stage : Stage handler trace view phase) : Pool.Regular (pooled trace) view := by
  cases stage with
  | polling rounds handling isOpen => simpa using handling.regular
  | giving inRound | awaiting inRound => simpa [inRound.seen] using inRound.handling.regular
  | ending leaving seen handling halting => simpa [seen] using handling.regular
  | closed isOver regular free inactive => exact regular

/-! ## Writing to the logs -/

theorem IsOpen.withState
    (isOpen : IsOpen view)
    (state : Service) : IsOpen { view with state } :=
  ⟨isOpen.free, isOpen.active⟩

theorem Halting.withState
    {stop : List (Pool.Event Rec Dispatch.Outcome)}
    (halting : Halting stop view)
    (state : Service) : Halting stop { view with state } := by
  cases halting with
  | notYet isOpen => exact .notYet (isOpen.withState state)
  | stopping control inactive stops => exact .stopping control inactive stops
  | stopped free inactive stops => exact .stopped free inactive stops

/-- The state that dispatching works on does not count for the stage. -/
theorem Stage.withState
    {phase : Phase Rec}
    (stage : Stage handler trace view phase)
    (state : Service) : Stage handler trace { view with state } phase := by
  have inRound {done : List (Notice Rec)} {count : Nat} {records given : List Rec}
      {events : List (Pool.Event Rec Dispatch.Outcome)}
      (inRound : InRound handler trace view done count records given events) :
      InRound handler trace { view with state } done count records given events :=
    { inRound with
      handling := inRound.handling.withState state
      isOpen := inRound.isOpen.withState state }
  cases stage with
  | polling rounds handling isOpen =>
      exact .polling rounds (handling.withState state) (isOpen.withState state)
  | giving isIn split isTickets => exact .giving (inRound isIn) split isTickets
  | awaiting isIn length isLeft told => exact .awaiting (inRound isIn) length isLeft told
  | ending leaving seen handling halting =>
      exact .ending leaving seen (handling.withState state) (halting.withState state)
  | closed isOver regular free inactive =>
      exact .closed isOver (regular.withState state) free inactive

/-! ## Steps of the pool -/

/-- A step of a worker leaves a pool open, and is about an item. -/
theorem IsOpen.work
    (isOpen : IsOpen view)
    (staffed : Pool.Staffed view)
    (shift : Pool.Shift run view event after)
    (byWorker : event.byWorker = true) :
    IsOpen after ∧ Undisturbed [event] := by
  obtain ⟨control, active, -⟩ := shift.of_byWorker byWorker
  refine ⟨⟨control.trans isOpen.free, active.trans isOpen.active⟩, fun other member => ?_⟩
  rw [List.mem_singleton.mp member]
  refine ⟨shift.isSome_ticket? staffed byWorker isOpen.free isOpen.active, ?_⟩
  rintro ticket rfl
  cases byWorker

theorem Undisturbed.append
    {events later : List (Pool.Event Rec Dispatch.Outcome)}
    (undisturbed : Undisturbed events)
    (isLater : Undisturbed later) : Undisturbed (events ++ later) := by
  intro event member
  rcases List.mem_append.mp member with isEarly | isLate
  · exact undisturbed event isEarly
  · exact isLater event isLate

/-- A step of a worker goes on with a round. -/
theorem InRound.work
    {done : List (Notice Rec)}
    {count : Nat}
    {records given : List Rec}
    {events : List (Pool.Event Rec Dispatch.Outcome)}
    (inRound : InRound handler trace view done count records given events)
    (shift : Pool.Shift run view event after)
    (byWorker : event.byWorker = true) :
    InRound handler (trace ++ [.pooled event]) after done count records given
      (events ++ [event]) := by
  obtain ⟨isOpen, undisturbed⟩ :=
    inRound.isOpen.work inRound.handling.regular.staffed shift byWorker
  exact ⟨inRound.rounds, by simp [inRound.seen], inRound.nonempty, inRound.isPrefix,
    inRound.handling.extend shift (shift.of_byWorker byWorker).2.2,
    inRound.undisturbed.append undisturbed, isOpen⟩

/-- Where nothing was given to the pool its workers make no step, unless it is stopped. -/
theorem Handling.not_byWorker
    {count : Nat}
    {before : List (Pool.Event Rec Dispatch.Outcome)}
    (handling : Handling handler count before [] [] view)
    (isOpen : IsOpen view)
    (shift : Pool.Shift run view event after) : event.byWorker = false := by
  rw [Bool.eq_false_iff]
  intro byWorker
  have isAbout := ((isOpen.work handling.regular.staffed shift byWorker).2 event
    (List.mem_singleton.mpr rfl)).1
  obtain ⟨ticket, about⟩ := Option.isSome_iff_exists.mp isAbout
  have extended := handling.extend shift (shift.of_byWorker byWorker).2.2
  obtain ⟨index, impossible, -⟩ := extended.only (by simp) about
  exact absurd impossible (Nat.not_lt_zero _)

/-- A step of a worker in a round that was left without everything being dispatched, or while the
pool is stopped. -/
theorem Stage.workEnding
    {front : List (Notice Rec)}
    {count : Nat}
    {given : List Rec}
    {events stop : List (Pool.Event Rec Dispatch.Outcome)}
    {failure : Option Failure}
    (leaving : Leaving handler front count given events failure)
    (handling : Handling handler count (pooled front) given (events ++ stop) view)
    (halting : Halting stop view)
    (shift : Pool.Shift run view event after)
    (byWorker : event.byWorker = true) :
    Stage handler (front ++ (events ++ stop).map .pooled ++ [.pooled event]) after
      (.ending failure) := by
  obtain ⟨control, active, tickets⟩ := shift.of_byWorker byWorker
  have extended := handling.extend shift tickets
  cases halting with
  | notYet isOpen =>
      cases leaving with
      | idle _ rounds | failed rounds dispatched undisturbed isFirst
        | uncommitted _ rounds some dispatched undisturbed =>
          rw [handling.not_byWorker isOpen shift] at byWorker
          cases byWorker
      | interrupted message rounds isPrefix undisturbed =>
          obtain ⟨stillOpen, isAbout⟩ := isOpen.work handling.regular.staffed shift byWorker
          refine @Stage.ending _ _ _ _ _ _ _ (events ++ [event]) [] _
            (.interrupted message rounds isPrefix (undisturbed.append isAbout)) (by simp) ?_
            (.notYet stillOpen)
          simpa using extended
  | @stopping meanwhile asked _ isAsked inactive stops =>
      refine @Stage.ending _ _ _ _ _ _ _ events (.stopping :: (meanwhile ++ [event])) _ leaving
        (by simp) (by simpa using extended) (.stopping (control.trans isAsked)
        (active.trans inactive) fun other member => ?_)
      rcases List.mem_append.mp member with isEarlier | isLast
      · exact stops other isEarlier
      · exact .inl (by rw [List.mem_singleton.mp isLast, byWorker])
  | stopped free inactive stops =>
      rw [shift.not_byWorker handling.regular.staffed free inactive] at byWorker
      cases byWorker

/-- A step of a worker leaves the thread in its phase. -/
theorem Stage.work
    {phase : Phase Rec}
    (stage : Stage handler trace view phase)
    (shift : Pool.Shift run view event after)
    (byWorker : event.byWorker = true) : Stage handler (trace ++ [.pooled event]) after phase := by
  cases stage with
  | polling rounds handling isOpen =>
      rw [handling.not_byWorker isOpen shift] at byWorker
      cases byWorker
  | giving inRound split isTickets => exact .giving (inRound.work shift byWorker) split isTickets
  | awaiting inRound length isLeft told =>
      refine .awaiting (inRound.work shift byWorker) length isLeft fun index result isResult => ?_
      exact inRound.handling.finished_of_extend shift (told index result isResult)
  | ending leaving seen handling halting =>
      rw [seen]
      exact .workEnding leaving handling halting shift byWorker
  | closed isOver regular free inactive =>
      rw [shift.not_byWorker regular.staffed free inactive] at byWorker
      cases byWorker

/-- A step of the thread while it stops the pool. -/
theorem Stage.stop
    {failure : Option Failure}
    (stage : Stage handler trace view (.ending failure))
    (shift : Pool.Shift run view event after)
    (byStop : event.byStop = true) :
    Stage handler (trace ++ [.pooled event]) after (.ending failure) := by
  cases stage with
  | @ending front count given events stop _ leaving seen handling halting =>
      rw [seen]
      cases shift with
      | start | warn | submit | refuse | cancel | keep | begin | drop | leave | finish =>
          cases byStop
      | stop free active =>
          have extended := handling.extend (.stop free active : Pool.Shift run view _ _) rfl
          cases halting with
          | notYet isOpen =>
              exact @Stage.ending _ _ _ _ _ _ _ events [.stopping] _ leaving (by simp)
                (by simpa using extended) (.stopping rfl rfl (by simp))
          | stopping isAsked inactive | stopped free inactive => cases inactive.symm.trans active
      | @ask worker asked isAsked found room =>
          have extended := handling.extend (.ask isAsked found room : Pool.Shift run view _ _) rfl
          cases halting with
          | notYet isOpen => cases isOpen.free.symm.trans isAsked
          | stopped free => cases free.symm.trans isAsked
          | @stopping meanwhile _ _ control inactive stops =>
              refine @Stage.ending _ _ _ _ _ _ _ events (.stopping :: (meanwhile ++ [.asked asked]))
                _ leaving (by simp) (by simpa using extended)
                (.stopping rfl inactive fun other member => ?_)
              rcases List.mem_append.mp member with isEarlier | isLast
              · exact stops other isEarlier
              · exact .inr ⟨asked, List.mem_singleton.mp isLast⟩
      | join isAsked rested =>
          have extended := handling.extend (.join isAsked rested : Pool.Shift run view _ _) rfl
          cases halting with
          | notYet isOpen => cases isOpen.free.symm.trans isAsked
          | stopped free => cases free.symm.trans isAsked
          | @stopping meanwhile _ _ control inactive stops =>
              exact @Stage.ending _ _ _ _ _ _ _ events (.stopping :: meanwhile ++ [.stopped]) _
                leaving (by simp) (by simpa using extended)
                (@Halting.stopped _ _ { view with control := .free } rfl inactive stops)

/-- What happens in a round is about its records. -/
theorem InRound.about
    {done : List (Notice Rec)}
    {count : Nat}
    {records given : List Rec}
    {events : List (Pool.Event Rec Dispatch.Outcome)}
    (inRound : InRound handler trace view done count records given events)
    (member : event ∈ events) : ∃ index < records.length, event.ticket? = some (count + index) := by
  obtain ⟨ticket, about⟩ := Option.isSome_iff_exists.mp (inRound.undisturbed event member).1
  obtain ⟨index, inside, rfl⟩ := inRound.handling.only member about
  exact ⟨index, Nat.lt_of_lt_of_le inside inRound.isPrefix.length_le, about⟩

/-! ## Moves of the thread -/

/-- A record that is given to the pool goes on with a round. -/
theorem InRound.give
    {done : List (Notice Rec)}
    {count ticket : Nat}
    {records given left : List Rec}
    {record : Rec}
    {events : List (Pool.Event Rec Dispatch.Outcome)}
    (inRound : InRound handler trace view done count records given events)
    (split : given ++ record :: left = records)
    (shift : Pool.Shift run view (.accepted (handler.item ticket record)) after) :
    ticket = count + given.length
      ∧ InRound handler (trace ++ [.pooled (.accepted (handler.item ticket record))]) after done
        count records (given ++ [record])
        (events ++ [.accepted (handler.item ticket record)]) := by
  obtain ⟨last, handling⟩ := inRound.handling.give shift
  obtain ⟨-, -, control, active⟩ := shift.of_accepted
  refine ⟨last, inRound.rounds, by simp [inRound.seen], inRound.nonempty, ⟨left, by simp [← split]⟩,
    handling, inRound.undisturbed.append fun event member => ?_,
    ⟨control.trans inRound.isOpen.free, active.trans inRound.isOpen.active⟩⟩
  rw [List.mem_singleton.mp member]
  exact ⟨rfl, fun ticket impossible => nomatch impossible⟩

/-- A round that is interrupted. -/
theorem InRound.interrupt
    {done : List (Notice Rec)}
    {count : Nat}
    {records given : List Rec}
    {events : List (Pool.Event Rec Dispatch.Outcome)}
    (inRound : InRound handler trace view done count records given events)
    (message : String) : Stage handler trace view (.ending (some (.interrupt message))) := by
  refine @Stage.ending _ _ _ _ (done ++ [.called (.poll records)]) count given events [] _
    (.interrupted message inRound.rounds inRound.isPrefix inRound.undisturbed)
    (by simp [inRound.seen]) ?_ (.notYet inRound.isOpen)
  simpa using inRound.handling

/-- A batch that is being handled may be interrupted. -/
theorem Stage.interrupt
    {phase : Phase Rec}
    (stage : Stage handler trace view phase)
    (busy : phase.isBusy = true)
    (message : String) : Stage handler trace view (.ending (some (.interrupt message))) := by
  cases stage with
  | polling | ending | closed => cases busy
  | giving inRound | awaiting inRound => exact inRound.interrupt message

/-- A round all of whose records have ended. -/
theorem Stage.dispatched
    {records : List Rec}
    {outcomes : List (Except Failure Dispatch.Outcome)}
    (stage : Stage handler trace view (.awaiting records outcomes [])) :
    ∃ done count events, Rounds handler done count
      ∧ trace = done ++ .called (.poll records) :: events.map .pooled ∧ records ≠ []
      ∧ Dispatched handler count records outcomes events ∧ Undisturbed events
      ∧ Handling handler (count + records.length) (pooled trace) [] [] view ∧ IsOpen view := by
  cases stage with
  | @awaiting done count _ _ _ events inRound length isLeft told =>
      rw [List.length_nil, Nat.add_zero] at length
      refine ⟨done, count, events, inRound.rounds, inRound.seen, inRound.nonempty,
        inRound.handling.dispatched length told, inRound.undisturbed, ?_, inRound.isOpen⟩
      simpa [inRound.seen] using inRound.handling.renew length told

/-- What a consumer was asked leaves its pool. -/
theorem view_of_asked
    {running : Running Rec}
    {call : ConsumerCall Rec}
    (asked : world.running.Asked call running)
    (phase : Phase Rec) :
    ({ world with running, phase } : World Rec).site.view = world.site.view := by
  unfold World.site
  rw [asked.pool, asked.service]

/-- A round that was committed. -/
theorem Stage.commit
    {records : List Rec}
    {outcomes : List (Except Failure Dispatch.Outcome)}
    {counts : Counts}
    (stage : Stage handler trace view (.awaiting records outcomes []))
    (tallied : tally outcomes = .ok counts) :
    Stage handler (trace ++ [.called .commit, .returned counts]) view .polling := by
  obtain ⟨done, count, events, rounds, rfl, some, dispatched, undisturbed, handling, isOpen⟩ :=
    stage.dispatched
  obtain ⟨outcomes, rfl, acknowledged, deadLettered⟩ := exists_outcomes_of_tally tallied
  have sum : counts.acknowledged + counts.deadLettered = records.length := by
    rw [acknowledged, deadLettered, count_add_count, ← dispatched.length, List.length_map]
  rw [List.append_assoc]
  refine .polling (rounds.committed some dispatched undisturbed acknowledged deadLettered sum) ?_
    isOpen
  simpa using handling

/-- A round that could not be committed. -/
theorem Stage.failToCommit
    {records : List Rec}
    {outcomes : List (Except Failure Dispatch.Outcome)}
    {counts : Counts}
    (stage : Stage handler trace view (.awaiting records outcomes []))
    (tallied : tally outcomes = .ok counts)
    (failure : Failure) :
    Stage handler (trace ++ [.called .commit, .uncommitted failure]) view
      (.ending (some failure)) := by
  obtain ⟨done, count, events, rounds, rfl, some, dispatched, undisturbed, handling, isOpen⟩ :=
    stage.dispatched
  obtain ⟨outcomes, rfl, -⟩ := exists_outcomes_of_tally tallied
  refine @Stage.ending _ _ _ _ _ _ [] [] [] _
    (.uncommitted failure rounds some dispatched undisturbed) (by simp) ?_ (.notYet isOpen)
  simpa using handling

/-- A round in which a record failed. -/
theorem Stage.fail
    {records : List Rec}
    {outcomes : List (Except Failure Dispatch.Outcome)}
    {failure : Failure}
    (stage : Stage handler trace view (.awaiting records outcomes []))
    (tallied : tally outcomes = .error failure) :
    Stage handler trace view (.ending (some failure)) := by
  obtain ⟨done, count, events, rounds, rfl, some, dispatched, undisturbed, handling, isOpen⟩ :=
    stage.dispatched
  refine @Stage.ending _ _ _ _ _ _ [] [] [] _
    (.failed rounds dispatched undisturbed (firstFailure_of_tally tallied)) (by simp) ?_
    (.notYet isOpen)
  simpa using handling

/-- Before a poll the loop may be left. -/
theorem Stage.leave
    (stage : Stage handler trace view .polling)
    (failure : Option Failure) : Stage handler trace view (.ending failure) := by
  cases stage with
  | polling rounds handling isOpen =>
      refine @Stage.ending _ _ _ _ trace _ [] [] [] _ (.idle failure rounds) (by simp) ?_
        (.notYet isOpen)
      simpa using handling

/-- A run whose pool has stopped, and whose consumer is closed then. -/
theorem Leaving.isOver
    {front : List (Notice Rec)}
    {count : Nat}
    {given : List Rec}
    {events meanwhile : List (Pool.Event Rec Dispatch.Outcome)}
    {failure : Option Failure}
    (leaving : Leaving handler front count given events failure)
    (handling : Handling handler count (pooled front) given
      (events ++ (Pool.Event.stopping :: meanwhile ++ [.stopped])) view)
    (free : view.control = .free)
    (inactive : view.active = false)
    (stops : ∀ event ∈ meanwhile, Meanwhile event) :
    Over handler
      (front ++ (events ++ (Pool.Event.stopping :: meanwhile ++ [Pool.Event.stopped])).map .pooled
        ++ [.called .close]) failure := by
  have calm (none : given = []) (event : Pool.Event Rec Dispatch.Outcome)
      (member : event ∈ Pool.Event.stopping :: meanwhile ++ [.stopped]) :
      event.ticket? = Option.none := by
    cases about : event.ticket? with
    | none => rfl
    | some ticket =>
        obtain ⟨index, inside, -⟩ := handling.only (List.mem_append_right _ member) about
        rw [none] at inside
        exact absurd inside (Nat.not_lt_zero _)
  cases leaving with
  | idle _ rounds =>
      have isOver := Over.mk rounds (.idle failure (calm rfl)) stops
      simpa using isOver
  | failed rounds dispatched undisturbed isFirst =>
      have isOver := Over.mk rounds (.failed dispatched undisturbed isFirst (calm rfl)) stops
      simpa using isOver
  | uncommitted cause rounds some dispatched undisturbed =>
      have isOver :=
        Over.mk rounds (.uncommitted cause some dispatched undisturbed (calm rfl)) stops
      simpa using isOver
  | interrupted message rounds isPrefix undisturbed =>
      have kept (ticket : Nat) :
          .cancelled ticket ∉ events ++ (.stopping :: meanwhile ++ [.stopped]) := by
        intro member
        rcases List.mem_append.mp member with isEarlier | isLater
        · exact (undisturbed _ isEarlier).2 ticket rfl
        · have inside : .cancelled ticket ∈ meanwhile := by simpa using isLater
          rcases stops _ inside with impossible | ⟨index, impossible⟩ <;> cases impossible
      obtain ⟨results, dispatched⟩ := handling.dispatched_of_stopped free inactive kept
      have isOver := Over.mk rounds (.interrupted message isPrefix dispatched undisturbed) stops
      simpa using isOver

/-- A pool that has stopped is left for good. -/
theorem Stage.close
    {failure : Option Failure}
    (stage : Stage handler trace view (.ending failure))
    (free : view.control = .free)
    (inactive : view.active = false) :
    Stage handler (trace ++ [.called .close]) view (.closed failure) := by
  cases stage with
  | ending leaving seen handling halting =>
      cases halting with
      | notYet isOpen => cases inactive.symm.trans isOpen.active
      | stopping control => cases control.symm.trans free
      | stopped _ _ stops =>
          rw [seen]
          refine .closed (leaving.isOver handling free inactive stops) ?_ free inactive
          simpa using handling.regular

/-- A move of the thread or of a worker leads to the stage of its phase.  Only the keys of the
records count for this, not what dispatching them does. -/
theorem Stage.move
    {other : Handler Rec}
    (stage : Stage handler trace world.site.view world.phase)
    (keyed : other.key = handler.key)
    (move : Move other world notices next) :
    Stage handler (trace ++ notices) next.site.view next.phase := by
  obtain ⟨key, dispatch⟩ := handler
  obtain ⟨same, otherwise⟩ := other
  obtain rfl : same = key := keyed
  cases move with
  | pollNothing polling none =>
      rw [view_of_asked (asked_note ..)]
      rw [polling] at stage ⊢
      cases stage with
      | polling rounds handling isOpen =>
          exact .polling rounds.empty (by simpa using handling) isOpen
  | @poll batch polling some =>
      rw [view_of_asked (asked_note ..)]
      rw [polling] at stage
      cases stage with
      | @polling count rounds handling isOpen =>
          refine @Stage.giving _ _ _ _ trace count _ [] _ _ []
            ⟨rounds, by simp, some, List.nil_prefix, ?_, fun event impossible => ?_, isOpen⟩ rfl rfl
          · simpa using handling
          · cases impossible
  | give giving step =>
      rw [giving] at stage
      cases stage with
      | giving inRound split isTickets =>
          obtain ⟨last, further⟩ := inRound.give split (Pool.shift_of_step step)
          refine .giving further (by simpa using split) ?_
          rw [isTickets, last, List.length_append, List.length_singleton, List.range'_concat,
            Nat.one_mul]
  | refuse giving refused =>
      rw [giving] at stage
      cases stage with
      | giving inRound split isTickets =>
          cases (Pool.submit_eq_error refused).symm.trans inRound.isOpen.active
  | wait giving =>
      rw [giving] at stage
      rw [List.append_nil]
      cases stage with
      | giving inRound split isTickets =>
          rw [List.append_nil] at split
          subst split
          refine .awaiting inRound ?_ ?_ fun index result impossible => ?_
          · rw [isTickets, List.length_range', List.length_nil, Nat.zero_add]
          · simp [isTickets]
          · simp at impossible
  | @collect _ outcomes _ _ _ awaiting ended =>
      rw [awaiting] at stage
      rw [List.append_nil]
      cases stage with
      | awaiting inRound length isLeft told =>
          rw [List.length_cons, List.range'_succ] at isLeft
          obtain ⟨rfl, isRest⟩ := List.cons.inj isLeft
          refine .awaiting inRound ?_ ?_ fun index result found => ?_
          · rw [List.length_append, List.length_singleton, ← length, List.length_cons]
            omega
          · rw [List.length_append, List.length_singleton]
            exact isRest
          · rcases Nat.lt_or_ge index outcomes.length with inside | beyond
            · rw [List.getElem?_append_left inside] at found
              exact told index result found
            · rw [List.getElem?_append_right beyond] at found
              obtain ⟨isLast, rfl⟩ := of_getElem?_singleton found
              have isIndex : index = outcomes.length := by omega
              rw [isIndex]
              exact ended
  | fail awaiting tallied =>
      rw [awaiting] at stage
      rw [List.append_nil]
      exact stage.fail tallied
  | commit awaiting tallied committed =>
      have asked := asked_commit world.running
      rw [committed] at asked
      rw [awaiting] at stage
      rw [view_of_asked asked]
      exact stage.commit tallied
  | failToCommit awaiting tallied committed =>
      have asked := asked_commit world.running
      rw [committed] at asked
      rw [awaiting] at stage
      rw [view_of_asked asked]
      exact stage.failToCommit tallied _
  | work byWorker step => exact stage.work (Pool.shift_of_step step) byWorker
  | cease polling =>
      rw [polling] at stage
      rw [List.append_nil]
      exact stage.leave none
  | failToPoll polling =>
      rw [polling] at stage
      rw [List.append_nil]
      exact stage.leave _
  | stop ending byStop step =>
      rw [ending] at stage
      simp only [World.stepped, ending]
      exact stage.stop (Pool.shift_of_step step) byStop
  | close ending free inactive =>
      rw [ending] at stage
      rw [view_of_asked (asked_close _)]
      exact stage.close free inactive

end Consumer
end Fulfilment
