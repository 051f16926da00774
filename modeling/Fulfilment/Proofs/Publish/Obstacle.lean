import Fulfilment.Proofs.Publish.Sending
import Fulfilment.Publish.DeadLetter

/-!
# What stands in the way of a message

The faults to come settle how the next sending on a channel ends: a connection that has yet to be
made can fail, the broker can refuse the message at once, or its acknowledgement can fail.  Without
an obstacle the broker has the message for good.  Dead letters are messages like others, and only
the failure of sending one is told in its own way.
-/

namespace Fulfilment

/-- What stands in the way of a message: the failure that its sending ends with, and whether the
message is recorded nevertheless. -/
structure Obstacle where
  failure : Failure
  recorded : Bool

/-- A message as it is recorded in spite of an obstacle. -/
def Obstacle.leaves
    (obstacle : Obstacle)
    (message : Message) : List Message :=
  if obstacle.recorded then [{ message with acknowledged := false }] else []

/-- The fault of connecting a channel, if it has yet to be connected. -/
def Service.connectFault?
    (service : Service)
    (channel : Channel) : Option Failure :=
  if (service.publisher channel).connected then none else service.broker.connectFaults.head?.join

/-- A channel has an open producer. -/
def Service.isOpen
    (service : Service)
    (channel : Channel) : Bool :=
  (service.publisher channel).connected

/-- The construction of a producer for the next message of a channel, if the channel has none and
no fault prevents it. -/
def Service.construction
    (service : Service)
    (channel : Channel) : List ProducerCall :=
  if service.isOpen channel || (service.connectFault? channel).isSome then []
  else [.create service.settings.brokerServers service.settings.requestTimeoutMilliseconds]

/-- What connecting a channel does to its producer and to the faults to come. -/
structure Service.Readied
    (channel : Channel)
    (before after : Service) : Prop where
  isOpen : after.isOpen channel = (before.connectFault? channel).isNone
  calls : after.broker.calls = before.broker.calls ++ before.construction channel
  connectFaults : after.broker.connectFaults =
    if before.isOpen channel then before.broker.connectFaults
    else before.broker.connectFaults.tail
  sendFaults : after.broker.sendFaults = before.broker.sendFaults

/-- What stands in the way of the next message of a channel. -/
def Service.obstacle?
    (service : Service)
    (channel : Channel) : Option Obstacle :=
  match service.connectFault? channel with
  | some failure => some ⟨failure, false⟩
  | none => service.broker.sendFaults.head?.join.map fun fault =>
      ⟨fault.failure, !fault.immediate⟩

/-- How the sending of a message ends, and the messages that it adds, given what stands in its
way. -/
def Obstacle.settle
    (obstacle : Option Obstacle)
    (message : Message) : Except Failure Unit × List Message :=
  match obstacle with
  | none => (.ok (), [{ message with acknowledged := true }])
  | some obstacle => (.error obstacle.failure, obstacle.leaves message)

namespace Obstacle

/-- A message that was recorded in spite of an obstacle is not acknowledged. -/
theorem unacknowledged_of_mem_leaves
    {obstacle : Obstacle}
    {message left : Message}
    (member : left ∈ obstacle.leaves message) :
    left = { message with acknowledged := false } := by
  unfold leaves at member
  split at member
  · exact List.mem_singleton.mp member
  · cases member

/-- What stands in the way of a message is one way in which its sending fails. -/
theorem sending
    (obstacle : Obstacle)
    (message : Message) :
    Sending message (.error obstacle.failure) (obstacle.leaves message) := by
  unfold leaves
  split
  · exact .lost _
  · exact .unsent _

theorem length_leaves_le_one
    (obstacle : Obstacle)
    (message : Message) : (obstacle.leaves message).length ≤ 1 := by
  unfold leaves
  split <;> simp

/-- What a sending adds is its message, which the broker may have failed to acknowledge. -/
theorem eq_of_mem_settle
    {obstacle : Option Obstacle}
    {message sent : Message}
    (member : sent ∈ (settle obstacle message).2) :
    ∃ acknowledged, sent = { message with acknowledged } := by
  cases obstacle with
  | none => exact ⟨true, List.mem_singleton.mp member⟩
  | some obstacle => exact ⟨false, unacknowledged_of_mem_leaves member⟩

/-- A sending adds at most one message. -/
theorem length_settle_le_one
    (obstacle : Option Obstacle)
    (message : Message) : (settle obstacle message).2.length ≤ 1 := by
  cases obstacle with
  | none => exact Nat.le_refl 1
  | some obstacle => exact obstacle.length_leaves_le_one message

end Obstacle

namespace Channel

open Fulfilment.Action Fulfilment.Change Fulfilment.Service

/-- Telling that no connection could be made leaves a line in the log. -/
theorem perform_tellUnconnected
    (failure : Failure)
    (service : Service) :
    ∃ log, (tellUnconnected failure).perform service = (.ok (), { service with log }) := by
  cases failure <;> exact ⟨_, rfl⟩

/-- A channel connects unless it meets a fault. -/
theorem perform_connect_eq
    (channel : Channel)
    (service : Service) :
    ∃ after, (connect channel).perform service =
        (match service.connectFault? channel with
          | some failure => .error failure
          | none => .ok (), after)
      ∧ Readied channel service after := by
  by_cases connected : (service.publisher channel).connected
  · refine ⟨service, ?_, ?_⟩
    · simp [connect, perform_bind, Service.connectFault?, connected]
    · constructor <;> simp [Service.connectFault?, construction, isOpen, connected]
  · cases fault : service.broker.connectFaults.head?.join with
    | none =>
        simp only [connect, nextConnectFault, note, Action.tell, perform_bind, perform_get,
          perform_set, perform_modify, perform_pure, Service.connectFault?, connected, fault,
          Bool.false_eq_true, if_false]
        refine ⟨_, rfl, ?_⟩
        cases channel <;> constructor <;>
          simp_all [Service.connectFault?, construction, isOpen, publisher, setConnected]
    | some failure =>
        obtain ⟨log, told⟩ := perform_tellUnconnected failure
          { service with
            broker := { service.broker with
              connectFaults := service.broker.connectFaults.tail } }
        simp only [connect, nextConnectFault, perform_bind, perform_get, perform_set,
          perform_pure, Service.connectFault?, connected, fault, Bool.false_eq_true, if_false]
        rw [told]
        refine ⟨_, rfl, ?_⟩
        cases channel <;> constructor <;>
          simp_all [Service.connectFault?, construction, isOpen, publisher]

/-- A sending ends as what stands in its way demands, and uses no more than its channel. -/
theorem perform_send
    {channel : Channel}
    {key : String}
    {value : Option Bytes}
    {headers : List Header}
    {service after : Service}
    {result : Except Failure Unit}
    (performed : (send channel key value headers).perform service = (result, after)) :
    Uses channel service after
      ∧ ∃ sent, after.broker.sent = service.broker.sent ++ sent
        ∧ (result, sent) = Obstacle.settle (service.obstacle? channel)
          ⟨(service.publisher channel).topic, Message.keyBytes key, value, headers, false⟩ := by
  refine ⟨(sends_send performed).uses, ?_⟩
  obtain ⟨connected, connecting, readied⟩ := perform_connect_eq channel service
  have pending := readied.sendFaults
  obtain ⟨used, silent⟩ := perform_connect connecting
  cases fault : service.connectFault? channel with
  | some failure =>
      simp only [fault] at connecting
      rw [send, perform_bind_of_error _ connecting] at performed
      cases performed
      exact ⟨[], by simp [silent], by simp [Service.obstacle?, fault, Obstacle.settle,
        Obstacle.leaves]⟩
  | none =>
      simp only [fault] at connecting
      rw [send, perform_bind_of_ok _ connecting] at performed
      simp only [nextSendFault, perform_bind, perform_get, perform_set, perform_pure,
        used.topic channel, pending] at performed
      simp only [Service.obstacle?, fault]
      cases next : service.broker.sendFaults.head?.join with
      | none =>
          simp only [next] at performed
          cases performed
          exact ⟨_, by rw [silent], rfl⟩
      | some fault =>
          obtain ⟨failure, immediate⟩ := fault
          simp only [next] at performed
          cases immediate with
          | true =>
              cases performed
              exact ⟨[], by simp [silent], rfl⟩
          | false =>
              cases performed
              exact ⟨[⟨(service.publisher channel).topic, Message.keyBytes key, value, headers,
                false⟩], by simp [silent], rfl⟩

end Channel

namespace DeadLetter

open Fulfilment.Action Fulfilment.Change Fulfilment.Service

/-- The message that copies a record to a topic. -/
def letter
    (topic : String)
    (record : Record)
    (reason : String) : Message :=
  ⟨topic, Message.keyBytes (key record), record.value, headers record reason, false⟩

/-- Copying a record sends its letter, and tells a failure in its own way. -/
theorem perform_send
    {record : Record}
    {reason : String}
    {service after : Service}
    {result : Except Failure Unit}
    (performed : (send record reason).perform service = (result, after)) :
    Uses .deadLetters service after
      ∧ ∃ copied sent, after.broker.sent = service.broker.sent ++ sent
        ∧ (copied, sent) = Obstacle.settle (service.obstacle? .deadLetters)
          (letter service.deadLetters.topic record reason)
        ∧ result = copied.mapError (failure service.deadLetters.topic) := by
  cases sending : (Channel.send .deadLetters (key record) record.value
      (headers record reason)).perform service with
  | mk copied between =>
      obtain ⟨uses, sent, added, settled⟩ := Channel.perform_send sending
      simp only [send, perform_bind, perform_get, perform_attempt, sending] at performed
      cases copied with
      | ok _ =>
          cases performed
          exact ⟨uses, _, sent, added, settled, rfl⟩
      | error cause =>
          cases performed
          exact ⟨uses, _, sent, added, settled, rfl⟩

end DeadLetter
end Fulfilment
