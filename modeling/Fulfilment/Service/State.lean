import Fulfilment.Broker.Message
import Fulfilment.Change
import Fulfilment.Log
import Fulfilment.Settings.Basic
import Fulfilment.Store.Session

/-!
# The running service

The state of the service and of what surrounds it: settings, clock, identifiers, store, broker,
publishers and log.  What will go wrong is told in advance, fault by fault.  An action is a change
of this state.
-/

namespace Fulfilment

/-- A fault of one send: at once, with nothing recorded, or while waiting for the broker's
acknowledgement. -/
structure SendFault where
  failure : Failure
  immediate : Bool
deriving Repr

/-- What a producer was asked beside sending. -/
inductive ProducerCall where
  | create (servers : List String) (requestTimeout : Int)
  | flush
  | close
deriving DecidableEq, Repr

/-- The broker: the faults of the next connections and sends, what was sent, and what producers
were asked. -/
structure Broker where
  connectFaults : List (Option Failure) := []
  sendFaults : List (Option SendFault) := []
  sent : List Message := []
  calls : List ProducerCall := []
deriving Repr

/-- What will go wrong in the store: the faults of the next commits, how many of the next look-ups
miss what another session has just committed, and a failure of every shipment creation. -/
structure StoreFaults where
  commits : List (Option Failure) := []
  missedEntries : Nat := 0
  missedOrders : Nat := 0
  creation : Option Failure := none
deriving Repr

/-- A publisher to a topic, which connects when it is first used. -/
structure Publisher where
  topic : String
  connected : Bool := false
deriving DecidableEq, Repr

/-- The publisher of events and that of dead letters. -/
inductive Channel where
  | events
  | deadLetters
deriving DecidableEq, Repr

/-- The running service. -/
structure Service where
  settings : Settings := {}
  clock : Moment
  identifier : Nat → Uuid := Uuid.numbered
  issued : Nat := 0
  store : Store := .ofTables {}
  storeFaults : StoreFaults := {}
  broker : Broker := {}
  events : Publisher := ⟨"events", false⟩
  routingKey : String := "shipping.created"
  deadLetters : Publisher := ⟨"shipping-service.dlq", false⟩
  log : List LogLine := []

/-- A change of the running service. -/
abbrev Action := Change Service

namespace Action

/-- Write a line to the log. -/
def tell
    (source : LogSource)
    (level : LogLevel)
    (text : String) : Action Unit :=
  modify fun service => { service with log := service.log ++ [⟨source, level, text⟩] }

/-- Carry out an operation of the store. -/
def inStore (operation : Store → Except StoreError α × Store) : Action α := do
  let service ← get
  let (result, store) := operation service.store
  set { service with store }
  match result with
  | .ok value => return value
  | .error error => Change.fail (.store error)

/-- Ask the store. -/
def askStore (ask : Tables → α) : Action α :=
  inStore fun store => (store.query ask, store)

/-- Issue a new identifier. -/
def newIdentifier : Action Uuid := do
  let service ← get
  set { service with issued := service.issued + 1 }
  return service.identifier (service.issued + 1)

end Action

end Fulfilment
