import Fulfilment.Store.Tables

/-!
# Sessions

A session works on the tables between two commits.  What it writes is seen by it at once and by
others after the commit.  A write that fails undoes everything since the last commit, and the
session then refuses every call until it is rolled back.
-/

namespace Fulfilment

/-- The committed tables, what the open session sees, and the error that broke the session. -/
structure Store where
  committed : Tables
  working : Tables
  broken : Option StoreError
deriving DecidableEq, Repr

namespace Store

/-- A store with nothing pending. -/
def ofTables (tables : Tables) : Store :=
  ⟨tables, tables, none⟩

/-- Undo everything since the last commit. -/
def rollback (store : Store) : Store :=
  ofTables store.committed

/-- Ask the tables as the session sees them. -/
def query
    (store : Store)
    (ask : Tables → α) : Except StoreError α :=
  match store.broken with
  | some cause => .error (.awaitingRollback cause.message)
  | none => .ok (ask store.working)

/-- Change the tables; a failed change breaks the session. -/
def update
    (store : Store)
    (change : Tables → Except StoreError (α × Tables)) : Except StoreError α × Store :=
  match store.broken with
  | some cause => (.error (.awaitingRollback cause.message), store)
  | none =>
      match change store.working with
      | .ok (result, working) => (.ok result, { store with working })
      | .error error => (.error error, ⟨store.committed, store.committed, some error⟩)

/-- Make everything since the last commit durable. -/
def commit (store : Store) : Except StoreError Unit × Store :=
  match store.broken with
  | some cause => (.error (.awaitingRollback cause.message), store)
  | none => (.ok (), ofTables store.working)

/-- Add a shipment under a new identifier. -/
def createShipment
    (store : Store)
    (shippingId : Uuid)
    (draft : ShipmentDraft) : Except StoreError Shipment × Store :=
  store.update fun tables => do
    let shipment ← Tables.completeShipment shippingId draft
    let tables ← tables.insertShipment shipment
    return (shipment, tables)

/-- Add a ledger entry. -/
def mark
    (store : Store)
    (draft : LedgerDraft) : Except StoreError LedgerEntry × Store :=
  store.update fun tables => do
    let entry ← Tables.completeEntry draft
    let tables ← tables.insertEntry entry
    return (entry, tables)

/-- Take the next sequence number of a key. -/
def allocate
    (store : Store)
    (key : String) : Except StoreError Int × Store :=
  store.update fun tables => tables.allocate key

/-- After a rollback the session sees what is committed. -/
@[simp]
theorem working_rollback (store : Store) :
    store.rollback.working = store.committed := rfl

/-- A rollback leaves what is committed. -/
@[simp]
theorem committed_rollback (store : Store) :
    store.rollback.committed = store.committed := rfl

/-- A change leaves what is committed. -/
@[simp]
theorem committed_update
    (store : Store)
    (change : Tables → Except StoreError (α × Tables)) :
    (store.update change).2.committed = store.committed := by
  unfold update
  split
  · rfl
  · split <;> rfl

end Store

/-- The database dialects whose tables can take sequence numbers. -/
def sequenceDialects : List String := ["postgresql", "sqlite"]

/-- Why no sequence number can be taken for a key in a dialect, whatever the tables hold. -/
def sequenceRefusal?
    (dialect key : String) : Option Failure :=
  if key = "" then some (.service (.sequence key "partition key is empty"))
  else if sequenceDialects.contains dialect then none
  else some (.service (.sequence key s!"unsupported database dialect '{dialect}'"))

end Fulfilment
