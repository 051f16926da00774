import Fulfilment.Failure

/-!
# Changes

A change of a state gives a result or a failure.  What it changed before a failure stays: undoing
is a change of its own.  The equations below say what each way of building a change does to the
state, so that a composed change is carried out piece by piece.
-/

namespace Fulfilment

/-- A change of a state that gives a result or a failure. -/
abbrev Change (State : Type) := ExceptT Failure (StateM State)

namespace Change

/-- Carry out a change. -/
def perform
    (change : Change State α)
    (state : State) : Except Failure α × State :=
  change.run state

/-- End with a failure. -/
def fail (failure : Failure) : Change State α :=
  throw failure

/-- Carry out a change and hand its result or failure on. -/
def attempt (change : Change State α) : Change State (Except Failure α) :=
  fun state =>
    let (result, state) := change.perform state
    (.ok result, state)

/-- Carry on from a result or failure. -/
def resume (result : Except Failure α) : Change State α :=
  match result with
  | .ok value => return value
  | .error failure => fail failure

/-- Carry out a change of a part of the state. -/
def within
    (part : State → Component)
    (replace : Component → State → State)
    (change : Change Component α) : Change State α :=
  fun state =>
    let (result, changed) := change.perform (part state)
    (result, replace changed state)

/-- A mere result leaves the state. -/
@[simp]
theorem perform_pure
    (value : α)
    (state : State) :
    (pure value : Change State α).perform state = (.ok value, state) := rfl

/-- A failure leaves the state. -/
@[simp]
theorem perform_fail
    (failure : Failure)
    (state : State) :
    (fail failure : Change State α).perform state = (.error failure, state) := rfl

/-- A thrown failure leaves the state. -/
@[simp]
theorem perform_throw
    (failure : Failure)
    (state : State) :
    (throw failure : Change State α).perform state = (.error failure, state) := rfl

/-- Reading the state gives it and leaves it. -/
@[simp]
theorem perform_get (state : State) :
    (get : Change State State).perform state = (.ok state, state) := rfl

/-- Setting the state replaces it. -/
@[simp]
theorem perform_set (next state : State) :
    (set next : Change State PUnit).perform state = (.ok (), next) := rfl

/-- Modifying the state applies the function to it. -/
@[simp]
theorem perform_modify
    (function : State → State)
    (state : State) :
    (modify function : Change State PUnit).perform state = (.ok (), function state) := rfl

/-- What follows a result goes on from its state; nothing follows a failure. -/
theorem perform_bind
    (change : Change State α)
    (next : α → Change State β)
    (state : State) :
    (change >>= next).perform state =
      match change.perform state with
      | (.ok value, state) => (next value).perform state
      | (.error failure, state) => (.error failure, state) := by
  change
    (match change.perform state with
      | (result, state) => (ExceptT.bindCont next result : StateM State (Except Failure β)) state)
        = _
  cases change.perform state with
  | mk result after => cases result <;> rfl

/-- After a result, what follows goes on from its state. -/
theorem perform_bind_of_ok
    {change : Change State α}
    {state after : State}
    {value : α}
    (next : α → Change State β)
    (performed : change.perform state = (.ok value, after)) :
    (change >>= next).perform state = (next value).perform after := by
  rw [perform_bind, performed]

/-- After a failure nothing follows. -/
theorem perform_bind_of_error
    {change : Change State α}
    {state after : State}
    {failure : Failure}
    (next : α → Change State β)
    (performed : change.perform state = (.error failure, after)) :
    (change >>= next).perform state = (.error failure, after) := by
  rw [perform_bind, performed]

/-- An attempt never fails. -/
@[simp]
theorem perform_attempt
    (change : Change State α)
    (state : State) :
    (attempt change).perform state =
      (.ok (change.perform state).1, (change.perform state).2) := rfl

/-- A change of a part does to the part what it does by itself. -/
@[simp]
theorem perform_within
    (part : State → Component)
    (replace : Component → State → State)
    (change : Change Component α)
    (state : State) :
    (within part replace change).perform state =
      ((change.perform (part state)).1, replace (change.perform (part state)).2 state) := rfl

/-- Resuming leaves the state. -/
@[simp]
theorem perform_resume
    (result : Except Failure α)
    (state : State) :
    (resume result : Change State α).perform state = (result, state) := by
  cases result <;> rfl

end Change

end Fulfilment
