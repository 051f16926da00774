import Fulfilment.Publish.Channel

/-!
# Publishing events

An event goes to the events topic under its partition key, so that the events of one key stay in
order.  Its headers repeat its name and version and give the routing key.
-/

namespace Fulfilment
namespace Publish

open Fulfilment.Action Fulfilment.Change

/-- The headers of a published event. -/
def eventHeaders
    (routingKey : String)
    (envelope : Envelope Payload) : List Header :=
  [Header.ofText "routing_key" routingKey,
    Header.ofText "event_name" envelope.eventName,
    Header.ofText "event_version" (toString envelope.eventVersion)]

/-- The text of an optional identifier. -/
def identifierText (identifier : Option Uuid) : String :=
  identifier.elim ServiceError.absent Uuid.text

/-- The error of an event that the broker did not take; other failures stay as they are. -/
def eventFailure
    (topic : String)
    (failure : Failure) : Failure :=
  match failure with
  | .broker error => .service (.publish topic error.message)
  | failure => failure

/-- Tell that the broker did not take an event. -/
def tellUnpublished
    (topic : String)
    (envelope : Envelope Payload)
    (failure : Failure) : Action Unit :=
  match failure with
  | .broker error =>
      let identifier := identifierText envelope.eventId
      tell .publisher .error
        s!"Failed to publish {envelope.eventName} {identifier} to {topic}: {error.message}"
  | _ => return

/-- Tell that the broker has an event. -/
def tellPublished
    (topic : String)
    (envelope : Envelope Payload) : Action Unit :=
  let identifier := identifierText envelope.eventId
  let sequence := envelope.sequence.elim ServiceError.absent fun number => toString number.toNat
  tell .publisher .info
    (s!"Published {envelope.eventName} {identifier} to {topic} "
      ++ s!"(partition key '{envelope.partitionKey}', sequence {sequence})")

/-- Publish an envelope whose written form is given. -/
def envelope
    (envelope : Envelope Payload)
    (written : Bytes) : Action Unit := do
  let service ← get
  let topic := service.events.topic
  let headers := eventHeaders service.routingKey envelope
  match ← attempt (Channel.events.send envelope.partitionKey (some written) headers) with
  | .ok () => tellPublished topic envelope
  | .error failure =>
      tellUnpublished topic envelope failure
      fail (eventFailure topic failure)

/-- Publish an event. -/
def event (event : Event) : Action Unit :=
  match event with
  | .orderCompleted completed => envelope completed event.encode
  | .shippingCreated created => envelope created event.encode

end Publish
end Fulfilment
