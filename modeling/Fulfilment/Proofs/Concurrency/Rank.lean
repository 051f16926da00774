import Fulfilment.Proofs.Concurrency.Alone

/-!
# Attempts go forward

Every step takes an attempt to a phase that is further on, so an attempt that has moved is never
again where it was.
-/

namespace Fulfilment
namespace Concurrency

/-- How far a phase is, in a number that every step of an attempt raises. -/
def Phase.rank (phase : Phase) : Nat :=
  match phase with
  | .begun => 0
  | .duplicate | .unlisted => 1
  | .found _ | .missing => 2
  | .entered _ | .placed _ => 3
  | .numbered _ _ => 4
  | .marked _ _ _ => 5
  | .announced _ _ _ => 6
  | .failing _ _ => 7
  | .ended _ => 8

theorem Phase.lt_rank_after
    {bound : Nat}
    {held : Writes}
    {cause : ε → Cause}
    {result : Except ε α}
    {onward : α → Phase}
    (small : bound < 7)
    (further : ∀ value, bound < (onward value).rank) :
    bound < (Phase.after held cause result onward).rank := by
  cases result with
  | ok value => exact further value
  | error error => exact small

theorem Phase.IsOpen.rank_lt
    {phase : Phase}
    (isOpen : phase.IsOpen) : phase.rank < 7 := by
  cases phase with
  | announced | failing | ended => exact absurd isOpen id
  | _ => simp [Phase.rank]

theorem Phase.rank_lt_of_result?
    {phase : Phase}
    {eventId : Option Uuid}
    {result : Workflow.Result}
    (complete : phase.result? eventId = some result) : phase.rank < 8 := by
  cases phase with
  | ended => cases complete
  | _ => simp [Phase.rank]

variable
  {Attempt : Type}
  [DecidableEq Attempt]
  {task : Attempt → Workflow.Task}
  {first world next : World Attempt}

theorem World.eq_or_rank_lt_of_move
    {mover : Attempt}
    {phase : Phase}
    (further : (world.phase mover).rank < phase.rank)
    (attempt : Attempt) :
    (world.move mover phase).phase attempt = world.phase attempt
      ∨ (world.phase attempt).rank < ((world.move mover phase).phase attempt).rank := by
  by_cases same : attempt = mover
  · subst same
    rw [phase_move_same]
    exact .inr further
  · exact .inl (phase_move_other same world phase)

/-- A step leaves an attempt where it is or raises its rank. -/
theorem Step.eq_or_rank_lt
    (step : Step task world next)
    (attempt : Attempt) :
    next.phase attempt = world.phase attempt
      ∨ (world.phase attempt).rank < (next.phase attempt).rank := by
  cases step with
  | look mover phase =>
      refine World.eq_or_rank_lt_of_move ?_ attempt
      rw [phase]
      split <;> simp [Phase.rank]
  | find mover phase =>
      refine World.eq_or_rank_lt_of_move ?_ attempt
      rw [phase]
      unfold Phase.lookedUp
      split <;> simp [Phase.rank]
  | enter mover phase | place mover phase | number mover phase | mark mover phase =>
      refine World.eq_or_rank_lt_of_move (Phase.lt_rank_after ?_ fun value => ?_) attempt
      all_goals
        rw [phase]
        simp [Phase.rank]
  | refuse mover phase | rollback mover phase =>
      refine World.eq_or_rank_lt_of_move ?_ attempt
      rw [phase]
      simp [Phase.rank]
  | @publish _ _ _ _ messages mover phase =>
      refine @World.eq_or_rank_lt_of_move _ _ (world.send mover messages) _ _
        (Phase.lt_rank_after ?_ fun value => ?_) attempt
      all_goals
        change (world.phase mover).rank < _
        rw [phase]
        simp [Phase.rank]
  | abort mover failure isOpen => exact World.eq_or_rank_lt_of_move isOpen.rank_lt attempt
  | commit mover complete =>
      exact World.eq_or_rank_lt_of_move (Phase.rank_lt_of_result? complete) attempt

theorem Reaches.eq_or_rank_lt
    (reaches : Reaches task first world)
    (attempt : Attempt) :
    world.phase attempt = first.phase attempt
      ∨ (first.phase attempt).rank < (world.phase attempt).rank := by
  induction reaches with
  | refl => exact .inl rfl
  | step before step ih =>
      rcases ih with same | further
      · rw [← same]
        exact step.eq_or_rank_lt attempt
      · rcases step.eq_or_rank_lt attempt with same | more
        · rw [same]
          exact .inr further
        · exact .inr (Nat.lt_trans further more)

/-- An attempt that has moved by a step, or before it, is elsewhere than at first. -/
theorem Reaches.moved
    {attempt : Attempt}
    (before : Reaches task first world)
    (step : Step task world next)
    (moved : world.phase attempt ≠ first.phase attempt
      ∨ next.phase attempt ≠ world.phase attempt) :
    next.phase attempt ≠ first.phase attempt := by
  intro same
  have further : (first.phase attempt).rank < (next.phase attempt).rank := by
    rcases before.eq_or_rank_lt attempt with still | further <;>
      rcases step.eq_or_rank_lt attempt with stays | more
    · exact absurd stays (moved.resolve_left (not_not_intro still))
    · rwa [still] at more
    · rwa [stays]
    · exact Nat.lt_trans further more
  rw [same] at further
  exact Nat.lt_irrefl _ further

end Concurrency
end Fulfilment
