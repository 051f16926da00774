import Fulfilment.Publish.Event

/-!
# What sending does

Sending on a channel changes the channel's connection, the broker and the log, and nothing else.
It adds at most one message, which is acknowledged exactly when the sending gives a result.
-/

namespace Fulfilment

/-- The service after a channel was used. -/
def Service.using
    (service : Service)
    (channel : Channel)
    (connected : Bool)
    (broker : Broker)
    (log : List LogLine) : Service :=
  { service.setConnected channel connected with broker, log }

/-- Nothing but a channel's connection, the broker and the log is different. -/
def Service.Uses
    (channel : Channel)
    (before after : Service) : Prop :=
  after = before.using channel (after.publisher channel).connected after.broker after.log

/-- How the sending of a message ends, and the messages that it adds. -/
inductive Sending (message : Message) : Except Failure Unit → List Message → Prop where
  /-- The broker has the message for good. -/
  | acknowledged : Sending message (.ok ()) [{ message with acknowledged := true }]
  /-- The message was recorded, but its acknowledgement failed. -/
  | lost (failure : Failure) :
      Sending message (.error failure) [{ message with acknowledged := false }]
  /-- The message was not recorded. -/
  | unsent (failure : Failure) : Sending message (.error failure) []

/-- A sending that fails leaves no acknowledged message. -/
theorem Sending.unacknowledged
    {message : Message}
    {failure : Failure}
    {sent : List Message}
    (sending : Sending message (.error failure) sent) :
    ∀ message ∈ sent, message.acknowledged = false := by
  cases sending <;> simp

/-- A message was sent on a channel, or was not, and nothing else was done. -/
structure Sends
    (channel : Channel)
    (message : Message)
    (before : Service)
    (result : Except Failure Unit)
    (after : Service) : Prop where
  uses : before.Uses channel after
  sent : ∃ sent, Sending message result sent ∧ after.broker.sent = before.broker.sent ++ sent

namespace Service

/-- A service that stays as it is uses no more than a channel. -/
theorem Uses.refl
    (channel : Channel)
    (service : Service) : Uses channel service service := by
  cases channel <;> rfl

/-- A channel that is used twice is used. -/
theorem Uses.trans
    {channel : Channel}
    {before between after : Service}
    (first : Uses channel before between)
    (second : Uses channel between after) : Uses channel before after := by
  rw [Uses, second, first]
  cases channel <;> rfl

/-- A line in the log uses no more than a channel. -/
theorem Uses.log
    (channel : Channel)
    (service : Service)
    (log : List LogLine) : Uses channel service { service with log } := by
  cases channel <;> rfl

/-- A change of the broker uses no more than a channel. -/
theorem Uses.broker
    (channel : Channel)
    (service : Service)
    (broker : Broker) : Uses channel service { service with broker } := by
  cases channel <;> rfl

/-- Using a channel keeps the topics. -/
theorem Uses.topic
    {channel : Channel}
    {before after : Service}
    (uses : Uses channel before after)
    (other : Channel) : (after.publisher other).topic = (before.publisher other).topic := by
  rw [uses]
  cases channel <;> cases other <;> rfl

/-- Using a channel leaves the store. -/
theorem Uses.store
    {channel : Channel}
    {before after : Service}
    (uses : Uses channel before after) : after.store = before.store := by
  rw [uses]
  cases channel <;> rfl

/-- Using a channel leaves the faults of the store. -/
theorem Uses.storeFaults
    {channel : Channel}
    {before after : Service}
    (uses : Uses channel before after) : after.storeFaults = before.storeFaults := by
  rw [uses]
  cases channel <;> rfl

end Service

namespace Channel

open Fulfilment.Action Fulfilment.Change Fulfilment.Service

/-- Connecting uses the channel and sends nothing. -/
theorem perform_connect
    {channel : Channel}
    {service after : Service}
    {result : Except Failure Unit}
    (performed : (connect channel).perform service = (result, after)) :
    Uses channel service after ∧ after.broker.sent = service.broker.sent := by
  have ending : after = ((connect channel).perform service).2 := by rw [performed]
  subst ending
  by_cases connected : (service.publisher channel).connected
  · simp [connect, perform_bind, connected, Uses.refl]
  · cases fault : service.broker.connectFaults.head?.join with
    | none =>
        simp [connect, nextConnectFault, note, Action.tell, perform_bind, connected, fault]
        cases channel <;> exact ⟨rfl, rfl⟩
    | some failure =>
        simp [connect, nextConnectFault, tellUnconnected, perform_bind, connected, fault]
        cases failure <;> cases channel <;> exact ⟨rfl, rfl⟩

/-- Sending sends one message, or fails to. -/
theorem sends_send
    {channel : Channel}
    {key : String}
    {value : Option Bytes}
    {headers : List Header}
    {service after : Service}
    {result : Except Failure Unit}
    (performed : (send channel key value headers).perform service = (result, after)) :
    Sends channel
      ⟨(service.publisher channel).topic, Message.keyBytes key, value, headers, false⟩ service
      result after := by
  cases connecting : (connect channel).perform service with
  | mk connection connected =>
      obtain ⟨used, silent⟩ := perform_connect connecting
      cases connection with
      | error failure =>
          rw [send, perform_bind_of_error _ connecting] at performed
          cases performed
          exact ⟨used, [], .unsent failure, by simp [silent]⟩
      | ok _ =>
          rw [send, perform_bind_of_ok _ connecting] at performed
          simp only [nextSendFault, perform_bind, perform_get, perform_set, perform_pure,
            used.topic channel] at performed
          cases next : connected.broker.sendFaults.head?.join with
          | none =>
              simp only [next] at performed
              cases performed
              exact ⟨used.trans (.broker channel connected _), _, .acknowledged, by simp [silent]⟩
          | some fault =>
              obtain ⟨failure, immediate⟩ := fault
              simp only [next] at performed
              cases immediate with
              | true =>
                  cases performed
                  exact ⟨used.trans (.broker channel connected _), _, .unsent failure,
                    by simp [silent]⟩
              | false =>
                  cases performed
                  exact ⟨used.trans (.broker channel connected _), _, .lost failure,
                    by simp [silent]⟩

end Channel

namespace Publish

open Fulfilment.Action Fulfilment.Change Fulfilment.Service

/-- The message with which an envelope is published. -/
def message
    (topic routingKey : String)
    (envelope : Envelope Payload)
    (written : Bytes) : Message :=
  ⟨topic, Message.keyBytes envelope.partitionKey, some written, eventHeaders routingKey envelope,
    false⟩

/-- Telling that an event was not published leaves a line in the log. -/
theorem uses_tellUnpublished
    (topic : String)
    (envelope : Envelope Payload)
    (failure : Failure)
    (service : Service) :
    ∃ log, (tellUnpublished topic envelope failure).perform service =
      (.ok (), { service with log }) := by
  cases failure <;> exact ⟨_, rfl⟩

/-- Publishing an envelope sends its message, or fails to. -/
theorem sends_envelope
    {envelope : Envelope Payload}
    {written : Bytes}
    {service after : Service}
    {result : Except Failure Unit}
    (performed : (Publish.envelope envelope written).perform service = (result, after)) :
    Sends .events (message service.events.topic service.routingKey envelope written) service
      result after := by
  cases sending : (Channel.send .events envelope.partitionKey (some written)
      (eventHeaders service.routingKey envelope)).perform service with
  | mk sent between =>
      obtain ⟨uses, added, how, broker⟩ := Channel.sends_send sending
      simp only [Publish.envelope, perform_bind, perform_get, perform_attempt, sending] at performed
      cases how with
      | acknowledged =>
          cases performed
          exact ⟨uses.trans (.log .events between _), _, .acknowledged, broker⟩
      | lost failure =>
          obtain ⟨log, told⟩ := uses_tellUnpublished service.events.topic envelope failure between
          simp only [perform_bind, told] at performed
          cases performed
          exact ⟨uses.trans (.log .events between _), _, .lost _, broker⟩
      | unsent failure =>
          obtain ⟨log, told⟩ := uses_tellUnpublished service.events.topic envelope failure between
          simp only [perform_bind, told] at performed
          cases performed
          exact ⟨uses.trans (.log .events between _), _, .unsent _, broker⟩

end Publish

end Fulfilment
