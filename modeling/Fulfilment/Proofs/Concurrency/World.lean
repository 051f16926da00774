import Fulfilment.Proofs.Workflow.Plan

/-!
# Attempts side by side

Any number of attempts work on the same tables at the same time, each in a session of its own.
An attempt goes from one call of the store to the next, then publishes, then commits or rolls
back, and between any two of its steps the others may take theirs.  Its calls do to the tables of
its session what the calls of a unit of work do, and it may fail for any reason until the broker
has acknowledged its event; what is acknowledged is committed.

A session sees what is committed at the moment and what it has written itself.  A row whose unique
key another session has written but not committed makes the writer wait, and so does a counter
that another session has moved.
-/

namespace Fulfilment
namespace Concurrency

open Fulfilment.Workflow

/-- What a session has written and not yet committed. -/
structure Writes where
  shipment : Option Shipment := none
  number : Option (String × Int) := none
  entry : Option LedgerEntry := none

/-- The tables with what a session has written. -/
def Writes.onto
    (writes : Writes)
    (tables : Tables) : Tables where
  shipments := tables.shipments ++ writes.shipment.toList
  ledger := tables.ledger ++ writes.entry.toList
  counters :=
    match writes.number with
    | none => tables.counters
    | some (key, number) => tables.counters.set key (number + 1)

/-- Why an attempt gives up: a unique key that is taken, or anything else. -/
inductive Cause where
  | conflict (column : Column)
  | other (failure : Failure)

/-- The failure of an attempt that gives up. -/
def Cause.toFailure (cause : Cause) : Failure :=
  match cause with
  | .conflict column => .store (.taken column)
  | .other failure => failure

/-- The cause that an error of the store is. -/
def Cause.ofStore (error : StoreError) : Cause :=
  match error with
  | .taken column => .conflict column
  | error => .other (.store error)

/-- How far an attempt has come. -/
inductive Phase where
  /-- Nothing is done yet. -/
  | begun
  /-- The event is in the ledger, so there is nothing to do. -/
  | duplicate
  /-- The event is not in the ledger. -/
  | unlisted
  /-- The order has a shipment. -/
  | found (shipment : Shipment)
  /-- The order has a shipment, and the event is entered into the ledger. -/
  | entered (shipment : Shipment)
  /-- The order has no shipment. -/
  | missing
  /-- The shipment is stored. -/
  | placed (shipment : Shipment)
  /-- The shipment is stored and its number taken. -/
  | numbered (shipment : Shipment) (sequence : Int)
  /-- Everything is written, and the event is ready to be published. -/
  | marked (shipment : Shipment) (sequence : Int) (event : Envelope ShippingCreated)
  /-- The broker has acknowledged the event, and nothing is committed yet. -/
  | announced (shipment : Shipment) (sequence : Int) (event : Envelope ShippingCreated)
  /-- The attempt gives up, and what it has written is not undone yet. -/
  | failing (cause : Cause) (held : Writes)
  /-- The session has committed or rolled back. -/
  | ended (ending : Except Cause Result)

namespace Phase

/-- What an attempt has written and not yet committed. -/
def writes
    (phase : Phase)
    (task : Task) : Writes :=
  match phase with
  | .entered _ => { entry := task.ledgerRow? }
  | .placed shipment => { shipment := some shipment }
  | .numbered shipment sequence =>
      { shipment := some shipment, number := some (task.envelope.resolvedKey, sequence) }
  | .marked shipment sequence _ | .announced shipment sequence _ =>
      { shipment := some shipment
        number := some (task.envelope.resolvedKey, sequence)
        entry := task.ledgerRow? }
  | .failing _ held => held
  | .begun | .duplicate | .unlisted | .found _ | .missing | .ended _ => {}

/-- The result of an attempt that has nothing left to do but commit. -/
def result?
    (phase : Phase)
    (eventId : Option Uuid) : Option Result :=
  match phase with
  | .duplicate => some { outcome := .duplicate, eventId }
  | .entered shipment =>
      some { outcome := .alreadyFulfilled, eventId, shippingId := some shipment.shippingId }
  | .announced shipment sequence _ =>
      some {
        outcome := .created
        eventId
        shippingId := some shipment.shippingId
        sequence := some sequence }
  | _ => none

/-- An attempt that may still fail on its own. -/
def IsOpen (phase : Phase) : Prop :=
  match phase with
  | .announced _ _ _ | .failing _ _ | .ended _ => False
  | _ => True

/-- An attempt that stands between an acknowledged event and its commit. -/
def IsAnnounced (phase : Phase) : Prop :=
  match phase with
  | .announced _ _ _ => True
  | _ => False

/-- The phase after a call that gives a value, or an error for which the attempt gives up. -/
def after
    (held : Writes)
    (cause : ε → Cause)
    (result : Except ε α)
    (next : α → Phase) : Phase :=
  match result with
  | .ok value => next value
  | .error error => .failing (cause error) held

/-- The phase after the shipment of the order was looked up. -/
def lookedUp (shipment? : Option Shipment) : Phase :=
  match shipment? with
  | some shipment => .found shipment
  | none => .missing

end Phase

/-- The committed tables, the messages with the attempts that sent them, and how far every attempt
has come. -/
structure World (Attempt : Type) where
  committed : Tables
  sent : List (Attempt × Message)
  phase : Attempt → Phase

namespace World

variable
  {Attempt : Type}
  [DecidableEq Attempt]

/-- The world in which no attempt has done anything. -/
def start (tables : Tables) : World Attempt where
  committed := tables
  sent := []
  phase := fun _ => .begun

/-- The world after an attempt has come to a phase. -/
def move
    (world : World Attempt)
    (attempt : Attempt)
    (phase : Phase) : World Attempt :=
  { world with phase := fun other => if other = attempt then phase else world.phase other }

/-- What an attempt has written and not yet committed. -/
def writes
    (world : World Attempt)
    (task : Attempt → Task)
    (attempt : Attempt) : Writes :=
  (world.phase attempt).writes (task attempt)

/-- The tables as the session of an attempt sees them. -/
def view
    (world : World Attempt)
    (task : Attempt → Task)
    (attempt : Attempt) : Tables :=
  (world.writes task attempt).onto world.committed

/-- The world after an attempt has sent messages. -/
def send
    (world : World Attempt)
    (attempt : Attempt)
    (messages : List Message) : World Attempt :=
  { world with sent := world.sent ++ messages.map fun message => (attempt, message) }

/-- The world after an attempt has committed what it has written. -/
def finish
    (world : World Attempt)
    (task : Attempt → Task)
    (attempt : Attempt)
    (result : Result) : World Attempt :=
  { world.move attempt (.ended (.ok result)) with committed := world.view task attempt }

/-- Whatever the other attempts hold differs from a resource. -/
def Apart
    (held : Attempt → Option Resource)
    (differ : Resource → Resource → Prop)
    (attempt : Attempt)
    (resource : Resource) : Prop :=
  ∀ other, other ≠ attempt → ∀ taken ∈ held other, differ taken resource

/-- Shipments that can be stored side by side. -/
def ShipmentsDiffer (first second : Shipment) : Prop :=
  first.shippingId ≠ second.shippingId ∧ first.orderId ≠ second.orderId

/-- Numbers that can be taken side by side. -/
def KeysDiffer (first second : String × Int) : Prop :=
  first.1 ≠ second.1

/-- Ledger entries that can be entered side by side. -/
def EventsDiffer (first second : LedgerEntry) : Prop :=
  first.eventId ≠ second.eventId

/-- The shipments that attempts have written. -/
def shipments
    (world : World Attempt)
    (task : Attempt → Task)
    (attempt : Attempt) : Option Shipment :=
  (world.writes task attempt).shipment

/-- The numbers that attempts have taken. -/
def numbers
    (world : World Attempt)
    (task : Attempt → Task)
    (attempt : Attempt) : Option (String × Int) :=
  (world.writes task attempt).number

/-- The ledger entries that attempts have written. -/
def entries
    (world : World Attempt)
    (task : Attempt → Task)
    (attempt : Attempt) : Option LedgerEntry :=
  (world.writes task attempt).entry

end World

open World

variable
  {Attempt : Type}
  [DecidableEq Attempt]

/-- One step of one attempt. -/
inductive Step
    (task : Attempt → Task)
    (world : World Attempt) : World Attempt → Prop where
  /-- Look the event up in the ledger. -/
  | look
      (attempt : Attempt)
      (phase : world.phase attempt = .begun) :
      Step task world (world.move attempt
        (if (task attempt).IsKnown (world.view task attempt) then .duplicate else .unlisted))
  /-- Look up the shipment of the order. -/
  | find
      (attempt : Attempt)
      (phase : world.phase attempt = .unlisted) :
      Step task world (world.move attempt
        (.lookedUp ((world.view task attempt).shipmentOfOrder?
          (task attempt).envelope.payload.orderId)))
  /-- Enter the event of an order that has a shipment into the ledger. -/
  | enter {shipment : Shipment}
      (attempt : Attempt)
      (phase : world.phase attempt = .found shipment)
      (free : ∀ next, (task attempt).enter (world.view task attempt) = .ok next →
        ∀ entry ∈ (task attempt).ledgerRow?,
          Apart (world.entries task) EventsDiffer attempt entry) :
      Step task world (world.move attempt
        (.after (world.writes task attempt) .ofStore
          ((task attempt).enter (world.view task attempt))
          fun _ => .entered shipment))
  /-- Store the shipment. -/
  | place
      (attempt : Attempt)
      (phase : world.phase attempt = .missing)
      (free : ∀ shipment next, (task attempt).place (world.view task attempt) =
          .ok (shipment, next) → Apart (world.shipments task) ShipmentsDiffer attempt shipment) :
      Step task world (world.move attempt
        (.after (world.writes task attempt) .ofStore
          ((task attempt).place (world.view task attempt))
          fun row => .placed row.1))
  /-- Take the number that the key is due. -/
  | number {shipment : Shipment}
      (attempt : Attempt)
      (phase : world.phase attempt = .placed shipment)
      (free : ∀ sequence,
        Apart (world.numbers task) KeysDiffer attempt
          ((task attempt).envelope.resolvedKey, sequence)) :
      Step task world (world.move attempt
        (.after (world.writes task attempt) .ofStore
          ((world.view task attempt).allocate (task attempt).envelope.resolvedKey)
          fun taken => .numbered shipment taken.1))
  /-- Fail to make the event about the shipment. -/
  | refuse {shipment : Shipment} {sequence : Int} {failure : Failure}
      (attempt : Attempt)
      (phase : world.phase attempt = .numbered shipment sequence)
      (unsound : checked ((task attempt).outbound shipment sequence) = .error failure) :
      Step task world
        (world.move attempt (.failing (.other failure) (world.writes task attempt)))
  /-- Make the event about the shipment and enter the order's event into the ledger. -/
  | mark {shipment : Shipment} {sequence : Int} {event : Envelope ShippingCreated}
      (attempt : Attempt)
      (phase : world.phase attempt = .numbered shipment sequence)
      (sound : checked ((task attempt).outbound shipment sequence) = .ok event)
      (free : ∀ next, (task attempt).enter (world.view task attempt) = .ok next →
        ∀ entry ∈ (task attempt).ledgerRow?,
          Apart (world.entries task) EventsDiffer attempt entry) :
      Step task world (world.move attempt
        (.after (world.writes task attempt) .ofStore
          ((task attempt).enter (world.view task attempt))
          fun _ => .marked shipment sequence event))
  /-- Publish the event, or fail to. -/
  | publish {shipment : Shipment} {sequence : Int} {event : Envelope ShippingCreated}
      {published : Except Failure Unit} {messages : List Message}
      (attempt : Attempt)
      (phase : world.phase attempt = .marked shipment sequence event)
      (sending : Sending ((task attempt).message event) published messages) :
      Step task world ((world.send attempt messages).move attempt
        (.after (world.writes task attempt) .other published
          fun _ => .announced shipment sequence event))
  /-- Fail at any moment before the broker has acknowledged the event. -/
  | abort
      (attempt : Attempt)
      (failure : Failure)
      (phase : (world.phase attempt).IsOpen) :
      Step task world
        (world.move attempt (.failing (.other failure) (world.writes task attempt)))
  /-- Commit everything that is written. -/
  | commit {result : Result}
      (attempt : Attempt)
      (phase : (world.phase attempt).result? (task attempt).envelope.eventId = some result) :
      Step task world (world.finish task attempt result)
  /-- Undo everything that is written. -/
  | rollback {cause : Cause} {held : Writes}
      (attempt : Attempt)
      (phase : world.phase attempt = .failing cause held) :
      Step task world (world.move attempt (.ended (.error cause)))

/-- The worlds that steps lead to, in any order of the attempts. -/
inductive Reaches
    (task : Attempt → Task)
    (first : World Attempt) : World Attempt → Prop where
  | refl : Reaches task first first
  | step {world next : World Attempt}
      (before : Reaches task first world)
      (step : Step task world next) : Reaches task first next

end Concurrency
end Fulfilment
