import Fulfilment.Publish.DeadLetter

/-!
# Consumer of dead letters

Every dead letter is told in one line of the log: its size, why it was rejected, where it came
from and what it holds.  A batch that held any is committed.
-/

namespace Fulfilment
namespace DeadLetter

open Fulfilment.Action Fulfilment.Change

/-- The text of the last header of a name that has a value. -/
def headerText?
    (record : Record)
    (name : String) : Option String :=
  let named := record.headerList.filterMap fun header =>
    if header.1 = name then header.2 else none
  named.getLast?.map Text.decodeLossy

/-- What is told about a dead letter. -/
def observation (record : Record) : String :=
  let value := record.value.getD []
  let reason := (headerText? record reasonHeader).getD "unknown"
  let topic := (headerText? record topicHeader).getD "unknown"
  let partition := (headerText? record partitionHeader).getD "?"
  let offset := (headerText? record offsetHeader).getD "?"
  s!"Dead-lettered message {record.description}: size={value.length} bytes, reason={reason}, "
    ++ s!"origin={topic}[{partition}]@{offset}, payload={Text.decodeLossy value}"

/-- Tell about a dead letter. -/
def observe (record : Record) : Action Unit :=
  tell .dispatch .error (observation record)

/-- A consumer of dead letters: what it is subscribed to, the failure of every commit, how many
commits succeeded, and whether it was closed. -/
structure Observer where
  subscription : String
  commitFailure : Option Failure := none
  commits : Nat := 0
  closed : Bool := false

/-- An observer with the service around it. -/
structure Observing where
  observer : Observer
  service : Service

/-- A change of an observer. -/
abbrev Watch := Change Observing

namespace Watch

/-- Carry out an action of the service. -/
def inService (action : Action α) : Watch α :=
  Change.within Observing.service (fun service observing => { observing with service }) action

/-- Commit the offsets of a batch. -/
def commit : Watch Unit := do
  let observing ← get
  let observer := observing.observer
  match observer.commitFailure with
  | some failure => fail failure
  | none =>
      set { observing with observer := { observer with commits := observer.commits + 1 } }

/-- Close the consumer. -/
def close : Watch Unit :=
  modify fun observing => { observing with observer := { observing.observer with closed := true } }

/-- Tell about every record of a poll and commit them: how many there were. -/
def pollBatch (batch : List (List Record)) : Watch Nat := do
  let records := batch.flatten
  inService (records.forM observe)
  if records.isEmpty then return 0
  commit
  return records.length

/-- Tell about polls one after another; when they are used up, fail or stop. -/
def pollAll
    (polls : List (List (List Record)))
    (ending : Option Failure) : Watch Unit :=
  match polls with
  | [] =>
      match ending with
      | some failure => fail failure
      | none => return
  | batch :: rest => do
      let _ ← pollBatch batch
      pollAll rest ending

/-- Run until a poll or a commit fails or the polls are used up, and close the consumer. -/
def run
    (polls : List (List (List Record)))
    (ending : Option Failure) : Watch Unit := do
  let subscription := (← get).observer.subscription
  inService (tell .consumer .info s!"Observing dead-lettered messages on: {subscription}")
  let attempted ← attempt (pollAll polls ending)
  close
  inService (tell .consumer .info "Dead-letter observer stopped")
  resume attempted

end Watch

end DeadLetter
end Fulfilment
