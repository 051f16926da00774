import Fulfilment.Command.Options

/-!
# The topics command

The command connects to the broker, makes the topics of the service exist and tells how many it
created.
-/

namespace Fulfilment
namespace Command

open Topic Provision

/-- How the command connects to the broker. -/
structure AdminOptions where
  servers : List String
  client : String
  requestTimeout : Int
deriving DecidableEq, Repr

/-- How the command connects under some settings. -/
def AdminOptions.ofSettings (settings : Settings) : AdminOptions where
  servers := settings.brokerServers
  client := "shipping-service-admin"
  requestTimeout := settings.requestTimeoutMilliseconds

/-- How the command ended: with an exit code, or with a failure that nobody caught. -/
inductive Ending where
  | exit (code : Nat)
  | escaped (failure : Failure)

/-- What came of the command: how it ended, how it connected if it did, and the provisioning. -/
structure Report where
  ending : Ending
  connection : Option AdminOptions := none
  provisioning : Topic.Provisioning Topic.ToldBroker

/-- Tell how many topics there are and how many of them were created. -/
def tellTotals (defined created : Nat) : Topic.Provision State Unit :=
  tell .command .info
    (s!"Topics defined: {defined}, created: {created}, "
      ++ s!"already present: {(defined : Int) - (created : Int)}")

/-- Make the topics of the service exist and tell how many were created. -/
def provision
    (admin : Topic.Admin State)
    (settings : Settings)
    (options : Options) : Topic.Provision State Unit := do
  let topics := Topic.ofSettings settings options.partitions options.replication
  let created ← ensure admin topics
  tellTotals topics.length created.length

/-- The ending of a failed command: an interrupt ends it with code 1. -/
def interrupted
    (failure : Failure)
    (provisioning : Topic.Provisioning State) : Ending × Topic.Provisioning State :=
  if failure.isInterrupt then
    (.exit 1, ((tell .command .warning "Script interrupted by user").perform provisioning).2)
  else (.escaped failure, provisioning)

/-- Run the command against a broker; connecting to it may fail. -/
def createTopics
    (settings : Settings)
    (options : Options)
    (broker : Topic.ToldBroker)
    (connectFailure : Option Failure) : Report :=
  let start : Topic.Provisioning Topic.ToldBroker := { broker }
  let announced :=
    ((tell .command .info s!"Connecting to Kafka at {settings.broker}...").perform start).2
  match connectFailure with
  | some (.broker error) =>
      let told := tell .command .error s!"Failed to connect to Kafka: {error.message}"
      { ending := .exit 1, provisioning := (told.perform announced).2 }
  | some failure =>
      let (ending, provisioning) := interrupted failure announced
      { ending, provisioning }
  | none =>
      let connection := some (AdminOptions.ofSettings settings)
      match (provision Topic.told settings options).perform announced with
      | (.ok (), provisioning) => { ending := .exit 0, connection, provisioning }
      | (.error failure, provisioning) =>
          let (ending, provisioning) := interrupted failure provisioning
          { ending, connection, provisioning }

/-- The exit code after help. -/
def helpCode : Nat := 0

/-- The exit code after a misuse of the command line. -/
def misuseCode : Nat := 2

/-- Run the command with the arguments of its command line. -/
def run
    (settings : Settings)
    (arguments : List String)
    (broker : Topic.ToldBroker)
    (connectFailure : Option Failure) : Report :=
  match read arguments with
  | .run options => createTopics settings options broker connectFailure
  | .help => { ending := .exit helpCode, provisioning := { broker } }
  | .misuse => { ending := .exit misuseCode, provisioning := { broker } }

end Command
end Fulfilment
