import Fulfilment.Service.State

/-!
# Channels

A channel is a publisher as the service holds it.  It connects when it is first used, sends one
message at a time, waits for the broker's acknowledgement and never tries again by itself.
Closing it lets the next use connect anew.
-/

namespace Fulfilment

/-- The publisher of a channel. -/
def Service.publisher
    (service : Service)
    (channel : Channel) : Publisher :=
  match channel with
  | .events => service.events
  | .deadLetters => service.deadLetters

/-- The service after a channel was connected or closed. -/
def Service.setConnected
    (service : Service)
    (channel : Channel)
    (connected : Bool) : Service :=
  match channel with
  | .events => { service with events := { service.events with connected } }
  | .deadLetters => { service with deadLetters := { service.deadLetters with connected } }

namespace Channel

open Fulfilment.Action Fulfilment.Change

/-- Note what a producer is asked. -/
def note (call : ProducerCall) : Action Unit :=
  modify fun service =>
    { service with broker := { service.broker with calls := service.broker.calls ++ [call] } }

/-- Take the fault of the next connection. -/
def nextConnectFault : Action (Option Failure) := do
  let service ← get
  let faults := service.broker.connectFaults
  set { service with broker := { service.broker with connectFaults := faults.tail } }
  return faults.head?.join

/-- Take the fault of the next send. -/
def nextSendFault : Action (Option SendFault) := do
  let service ← get
  let faults := service.broker.sendFaults
  set { service with broker := { service.broker with sendFaults := faults.tail } }
  return faults.head?.join

/-- Tell that no connection could be made, if the broker is why. -/
def tellUnconnected (failure : Failure) : Action Unit :=
  match failure with
  | .broker error => tell .publisher .error s!"Failed to connect to Kafka: {error.message}"
  | _ => return

/-- Make sure that a channel is connected. -/
def connect (channel : Channel) : Action Unit := do
  let service ← get
  if (service.publisher channel).connected then return
  match ← nextConnectFault with
  | some failure =>
      tellUnconnected failure
      fail failure
  | none =>
      note (.create service.settings.brokerServers service.settings.requestTimeoutMilliseconds)
      modify fun service => service.setConnected channel true
      tell .publisher .info "Kafka producer connected"

/-- Note a message as sent. -/
def record (message : Message) : Action Unit :=
  modify fun service =>
    { service with broker := { service.broker with sent := service.broker.sent ++ [message] } }

/-- Send a message and wait until the broker acknowledges it. -/
def send
    (channel : Channel)
    (key : String)
    (value : Option Bytes)
    (headers : List Header) : Action Unit := do
  connect channel
  let topic := ((← get).publisher channel).topic
  let message : Message := ⟨topic, Message.keyBytes key, value, headers, false⟩
  match ← nextSendFault with
  | some ⟨failure, true⟩ => fail failure
  | some ⟨failure, false⟩ =>
      record message
      fail failure
  | none => record { message with acknowledged := true }

/-- Close a channel, if it is connected. -/
def close (channel : Channel) : Action Unit := do
  let service ← get
  if (service.publisher channel).connected then
    note .flush
    note .close
    modify fun service => service.setConnected channel false
    tell .publisher .info "Kafka producer closed"

end Channel
end Fulfilment
