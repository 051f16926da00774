import Fulfilment.Publish.DeadLetter
import Fulfilment.Workflow

/-!
# Dispatch

What becomes of one record.  A record that the workflow can handle is acknowledged.  Any other is
copied to the dead-letter topic, and if that fails too the failure goes on to the caller, so that
the record is not lost.
-/

namespace Fulfilment
namespace Dispatch

open Fulfilment.Action Fulfilment.Change

/-- What became of a record. -/
inductive Outcome where
  | acknowledged
  | deadLettered
deriving DecidableEq, Repr

/-- The name of an outcome. -/
def Outcome.name (outcome : Outcome) : String :=
  match outcome with
  | .acknowledged => "ACK"
  | .deadLettered => "DEAD_LETTER"

/-- Copy a record that could not be processed to the dead-letter topic. -/
def reject
    (record : Record)
    (failure : Failure) : Action Outcome := do
  tell .dispatch .error
    s!"Processing failed for {record.description}, dead-lettering: {failure.message}"
  DeadLetter.send record failure.description
  let topic := (← get).deadLetters.topic
  tell .dispatch .warning s!"Record {record.description} moved to {topic}"
  return .deadLettered

/-- Process a record, with so many retries after conflicts. -/
def dispatch
    (retries : Int)
    (record : Record) : Action Outcome := do
  match ← attempt (Workflow.handle retries record.value) with
  | .ok result =>
      tell .dispatch .debug s!"Record {record.description} acknowledged ({result.outcome.name})"
      return .acknowledged
  | .error failure =>
      if failure.isInterrupt then fail failure else reject record failure

end Dispatch
end Fulfilment
