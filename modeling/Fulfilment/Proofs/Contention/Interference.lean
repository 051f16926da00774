import Fulfilment.Proofs.Store.Rows
import Fulfilment.Workflow

/-!
# Interference

Other workers commit rows between the store calls of an attempt.  The steps of the workflow are
taken here as they are, with one difference: just before each call of the store the rows that others
have committed meanwhile are there, for the session as for everybody.  Rows only come in.  Without
any interference this is the workflow itself.
-/

namespace Fulfilment

/-- The tables once other workers have committed rows. -/
def Tables.absorb (tables rows : Tables) : Tables where
  shipments := tables.shipments ++ rows.shipments
  ledger := tables.ledger ++ rows.ledger
  counters := rows.counters.foldl (fun counters counter => counters.set counter.1 counter.2)
    tables.counters

/-- The store once other workers have committed rows, which the session sees beside its own. -/
def Store.absorb
    (store : Store)
    (rows : Tables) : Store :=
  { store with committed := store.committed.absorb rows, working := store.working.absorb rows }

namespace Tables

variable {tables rows : Tables}

theorem Knows.absorb
    {eventId : Uuid}
    (known : tables.Knows eventId)
    (rows : Tables) : (tables.absorb rows).Knows eventId := by
  obtain ⟨entry, member, about⟩ := known
  exact ⟨entry, List.mem_append_left _ member, about⟩

theorem HasShipment.absorb
    {orderId : Uuid}
    (shipped : tables.HasShipment orderId)
    (rows : Tables) : (tables.absorb rows).HasShipment orderId := by
  obtain ⟨shipment, member, about⟩ := shipped
  exact ⟨shipment, List.mem_append_left _ member, about⟩

/-- Shipping identifiers come from the tables or from the new rows. -/
theorem uses_absorb_iff {shippingId : Uuid} :
    (tables.absorb rows).Uses shippingId ↔ tables.Uses shippingId ∨ rows.Uses shippingId := by
  simp [Uses, Tables.absorb, or_and_right, exists_or]

end Tables

namespace Workflow

open Fulfilment.Action Fulfilment.Change

/-- The calls of the store in an attempt. -/
inductive StoreCall where
  | findEvent
  | findOrder
  | insertShipment
  | takeNumber
  | insertEntry
  | commit
deriving DecidableEq, Repr

/-- The rows that other workers commit just before each call of the store, in the attempt of each
number. -/
abbrev Interference := Nat → StoreCall → Tables

/-- Other workers commit their rows before a call. -/
def meanwhile
    (others : StoreCall → Tables)
    (call : StoreCall) : Action Unit :=
  modify fun service => { service with store := service.store.absorb (others call) }

/-- Fulfil an order that has no shipment yet, amid the commits of others. -/
def fulfilAmid
    (others : StoreCall → Tables)
    (envelope : Envelope OrderCompleted) : Action Result := do
  meanwhile others .insertShipment
  let shipment ← createShipment envelope.payload
  meanwhile others .takeNumber
  let sequence ← nextSequence envelope.resolvedKey
  let eventId ← newIdentifier
  let serviceName := (← get).settings.serviceName
  let (producer, number) ← checkOutbound (outboundParts serviceName sequence)
  let outbound := shippingCreated envelope shipment producer eventId number
  meanwhile others .insertEntry
  markProcessed envelope
  Publish.event (.shippingCreated outbound)
  return {
    outcome := .created
    eventId := envelope.eventId
    shippingId := some shipment.shippingId
    sequence := some sequence }

/-- Process an order amid the commits of others. -/
def processAmid
    (others : StoreCall → Tables)
    (envelope : Envelope OrderCompleted) : Action Result := do
  meanwhile others .findEvent
  let known ← match envelope.eventId with
    | none => pure false
    | some eventId => isInLedger eventId
  if known then return { outcome := .duplicate, eventId := envelope.eventId }
  meanwhile others .findOrder
  match ← findShipment envelope.payload.orderId with
  | some shipment =>
      meanwhile others .insertEntry
      markProcessed envelope
      return {
        outcome := .alreadyFulfilled
        eventId := envelope.eventId
        shippingId := some shipment.shippingId }
  | none => fulfilAmid others envelope

/-- Process an order and commit, or undo everything, amid the commits of others. -/
def unitOfWorkAmid
    (others : StoreCall → Tables)
    (envelope : Envelope OrderCompleted) : Action Result := do
  let attempted ← attempt do
    let result ← processAmid others envelope
    meanwhile others .commit
    commit
    return result
  rollback
  let result ← resume attempted
  let identifier := Publish.identifierText result.eventId
  tell .workflow .info
    s!"Event {identifier} for order {envelope.payload.orderId.text}: {result.outcome.name}"
  return result

/-- Carry out the unit of work, and again after a conflict as often as retries are left, amid the
commits of others. -/
def attemptsAmid
    (others : Interference)
    (envelope : Envelope OrderCompleted) : Nat → Nat → Action Result
  | 0, number => unitOfWorkAmid (others number) envelope
  | retries + 1, number => do
      match ← attempt (unitOfWorkAmid (others number) envelope) with
      | .ok result => return result
      | .error failure =>
          if failure.isConflict then
            tellConflict envelope number
            attemptsAmid others envelope retries (number + 1)
          else fail failure

/-- Handle the body of one delivery amid the commits of others. -/
def handleAmid
    (others : Interference)
    (retries : Int)
    (body : Option Bytes) : Action Result :=
  match Event.decodeOrderCompleted body with
  | .ok envelope => attemptsAmid others envelope retries.toNat 1
  | .error (.shapeMismatch name version) => do
      tell .workflow .info s!"Ignoring message with unexpected shape {name} v{version}"
      return { outcome := .shapeMismatch }
  | .error error => fail error.toFailure

/-- Nobody commits anything. -/
def Interference.none : Interference :=
  fun _ _ => {}

/-- When nobody commits anything, nothing happens meanwhile. -/
theorem meanwhile_none
    (number : Nat)
    (call : StoreCall) : meanwhile (Interference.none number) call = pure () := by
  funext service
  have same (tables : Tables) : tables.absorb {} = tables := by
    simp [Tables.absorb]
  have kept : service.store.absorb (Interference.none number call) = service.store := by
    simp only [Store.absorb, Interference.none, same]
  change (Except.ok PUnit.unit, { service with store := service.store.absorb _ }) =
    (Except.ok PUnit.unit, service)
  rw [kept]

/-- Without interference a unit of work is the workflow's. -/
theorem unitOfWorkAmid_none
    (number : Nat)
    (envelope : Envelope OrderCompleted) :
    unitOfWorkAmid (Interference.none number) envelope = unitOfWork envelope := by
  have fulfilling : fulfilAmid (Interference.none number) envelope = fulfil envelope := by
    simp only [fulfilAmid, fulfil, meanwhile_none, pure_bind]
  have processing : processAmid (Interference.none number) envelope = process envelope := by
    simp only [processAmid, meanwhile_none, pure_bind, fulfilling]
    rfl
  simp only [unitOfWorkAmid, unitOfWork, processing, meanwhile_none, pure_bind]

/-- Without interference the attempts are the workflow's. -/
theorem attemptsAmid_none
    (envelope : Envelope OrderCompleted)
    (retries number : Nat) :
    attemptsAmid Interference.none envelope retries number = attempts envelope retries number := by
  induction retries generalizing number with
  | zero => exact unitOfWorkAmid_none number envelope
  | succ retries ih =>
      simp only [attemptsAmid, unitOfWorkAmid_none, ih]
      rfl

/-- Without interference handling a body is the workflow's. -/
theorem handleAmid_none
    (retries : Int)
    (body : Option Bytes) : handleAmid Interference.none retries body = handle retries body := by
  simp only [handleAmid, attemptsAmid_none]
  rfl

end Workflow
end Fulfilment
