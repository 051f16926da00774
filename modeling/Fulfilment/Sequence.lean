import Fulfilment.Workflow

/-!
# Sequence numbers

A user of the tables takes the next number of a partition key.  The counter of the key is made
first if there is none, then read, then moved on.  The empty key has no counter, and only some
database dialects can make one.
-/

namespace Fulfilment

namespace Tables

/-- The tables with a counter for a key: the one that is there, or a new one. -/
def withCounter
    (tables : Tables)
    (key : String) : Tables :=
  match tables.counters.next? key with
  | some _ => tables
  | none => { tables with counters := tables.counters.set key firstSequence }

/-- The tables once the counter of a key has another value, if that fits. -/
def setCounter
    (tables : Tables)
    (key : String)
    (value : Int) : Except StoreError Tables :=
  if value ≤ greatestCounter then .ok { tables with counters := tables.counters.set key value }
  else .error .tooLarge

end Tables

namespace Store

/-- Make sure that a key has a counter. -/
def ensureCounter
    (store : Store)
    (key : String) : Except StoreError Unit × Store :=
  store.update fun tables => .ok ((), tables.withCounter key)

/-- Give the counter of a key another value. -/
def setCounter
    (store : Store)
    (key : String)
    (value : Int) : Except StoreError Unit × Store :=
  store.update fun tables => do
    let tables ← tables.setCounter key value
    return ((), tables)

end Store

namespace Sequence

open Fulfilment.Action Fulfilment.Change

/-- Take the next number of a partition key. -/
def next (dialect key : String) : Action Int :=
  match sequenceRefusal? dialect key with
  | some refusal => fail refusal
  | none => do
      inStore fun store => store.ensureCounter key
      match ← askStore fun tables => tables.counters.next? key with
      | none => fail (.store (.other "No row was found when one was required"))
      | some current =>
          inStore fun store => store.setCounter key (current + 1)
          tell .sequences .debug s!"Allocated sequence {current} for partition '{key}'"
          return current

end Sequence
end Fulfilment
