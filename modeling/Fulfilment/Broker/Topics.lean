import Fulfilment.Change
import Fulfilment.Log
import Fulfilment.Settings.Basic

/-!
# Topics

The topics that the service reads from or writes to, and how they are made to exist.  Only
missing topics are created.  A topic that somebody else creates in between counts as existing;
any other failure ends the work and leaves what was created before.
-/

namespace Fulfilment

/-- A topic to be created.  Its counts may be left open. -/
structure Topic where
  name : String
  partitions : Option Int
  replication : Option Int
deriving DecidableEq, Repr

namespace Topic

/-- The number of partitions of a topic unless told otherwise. -/
def standardPartitions : Int := 3

/-- The number of replicas of a topic unless told otherwise. -/
def standardReplication : Int := 1

/-- The topics of the service. -/
def ofSettings
    (settings : Settings)
    (partitions replication : Option Int) : List Topic :=
  [settings.ordersTopic, settings.eventsTopic, settings.deadLetterTopic].map fun name =>
    ⟨name, partitions, replication⟩

/-- How a broker in some state lists its topics and creates one. -/
structure Admin (State : Type) where
  list : State → List String
  create : Topic → State → Except Failure Unit × State

/-- What topics are made to exist in: the broker's state and the log. -/
structure Provisioning (State : Type) where
  broker : State
  log : List LogLine := []

/-- A change of a provisioning. -/
abbrev Provision (State : Type) := Change (Provisioning State)

namespace Provision

/-- Write a line to the log. -/
def tell
    (source : LogSource)
    (level : LogLevel)
    (text : String) : Provision State Unit :=
  modify fun provisioning =>
    { provisioning with log := provisioning.log ++ [⟨source, level, text⟩] }

/-- Ask the broker to create a topic. -/
def ask
    (admin : Admin State)
    (topic : Topic) : Provision State (Except Failure Unit) := do
  let provisioning ← get
  let (result, broker) := admin.create topic provisioning.broker
  set { provisioning with broker }
  return result

/-- Tell that a topic exists already. -/
def tellExists (topic : Topic) : Provision State Unit :=
  tell .topics .info s!"Topic '{topic.name}' already exists"

/-- A failure to create what somebody else has created. -/
def isExisting (failure : Failure) : Bool :=
  match failure with
  | .broker error => error.topicExists
  | _ => false

/-- Create a topic unless somebody else does: the names created. -/
def create
    (admin : Admin State)
    (topic : Topic) : Provision State (List String) := do
  match ← ask admin topic with
  | .ok () =>
      tell .topics .info s!"Topic '{topic.name}' created"
      return [topic.name]
  | .error failure =>
      if isExisting failure then
        tellExists topic
        return []
      else Change.fail failure

/-- Create topics one after another: the names created. -/
def createAll (admin : Admin State) : List Topic → Provision State (List String)
  | [] => return []
  | topic :: rest => do
      let created ← create admin topic
      return created ++ (← createAll admin rest)

/-- Make topics exist: the names created. -/
def ensure
    (admin : Admin State)
    (topics : List Topic) : Provision State (List String) := do
  let existing := admin.list (← get).broker
  let (present, missing) := topics.partition fun topic => existing.contains topic.name
  present.forM tellExists
  createAll admin missing

end Provision

/-- A broker whose topics are listed once and whose next creations fail as told.  It keeps what it
was asked to create. -/
structure ToldBroker where
  existing : List String := []
  faults : List (Option Failure) := []
  asked : List Topic := []

/-- The broker that does as told. -/
def told : Admin ToldBroker where
  list broker := broker.existing
  create topic broker :=
    let next := { broker with faults := broker.faults.tail, asked := broker.asked ++ [topic] }
    match broker.faults.head?.join with
    | some failure => (.error failure, next)
    | none => (.ok (), next)

end Topic

end Fulfilment
