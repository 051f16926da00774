import Fulfilment.Proofs.Broker.Announcement
import Fulfilment.Proofs.Event.Accepted
import Fulfilment.Proofs.Publish.Obstacle
import Fulfilment.Proofs.Store.Rows

/-!
# What accounts for a record

A record is accounted for if its body is an event of another shape, or if its order has one shipment
with one announcement, or if the broker has a copy of it that tells where it came from.  Copies
announce nothing, since a body that is an event about a created shipment is never rejected.
-/

namespace Fulfilment

/-- A body that is an event about a created shipment is no completed order. -/
theorem Event.mismatch_of_decodeShippingCreated?
    {body : Option Bytes}
    {created : Envelope ShippingCreated}
    (read : decodeShippingCreated? body = some created) :
    ∃ name version, decodeOrderCompleted body = .error (.shapeMismatch name version) := by
  unfold decodeShippingCreated? at read
  split at read
  · next envelope decoded =>
      obtain ⟨value, type, isJson, given, -, -⟩ := decode_eq_ok_iff.mp decoded
      refine ⟨EventType.shippingCreated.name, EventType.version, ?_⟩
      have other : EventType.shippingCreated.name ≠ EventType.orderCompleted.name := by decide
      simp [decodeOrderCompleted, decode, isJson, ofJson, given, other]
  · cases read

/-- A body that does not mismatch the shape of a completed order is no event about a created
shipment. -/
theorem Event.decodeShippingCreated?_eq_none
    {body : Option Bytes}
    (other : ∀ name version, decodeOrderCompleted body ≠ .error (.shapeMismatch name version)) :
    decodeShippingCreated? body = none := by
  cases read : decodeShippingCreated? body with
  | none => rfl
  | some created =>
      obtain ⟨name, version, mismatch⟩ := mismatch_of_decodeShippingCreated? read
      exact absurd mismatch (other name version)

namespace Dispatch

/-- What accounts for a record, given the topic of the dead letters, the committed tables and the
messages that were sent. -/
inductive Accounted
    (topic : String)
    (record : Record)
    (tables : Tables)
    (messages : List Message) : Prop where
  /-- The body is an event of another shape. -/
  | mismatched {name : String} {version : Int}
      (decoded : Event.decodeOrderCompleted record.value = .error (.shapeMismatch name version))
  /-- The order has exactly one shipment, which the broker was told of exactly once for good. -/
  | fulfilled {envelope : Envelope OrderCompleted}
      (decoded : Event.decodeOrderCompleted record.value = .ok envelope)
      (shipped : tables.shipmentsOf envelope.payload.orderId = 1)
      (announced : announcementsOf (Message.announcements messages) envelope.payload.orderId = 1)
  /-- The broker has a copy for good, which tells where the record came from. -/
  | deadLettered {letter : Message}
      (sent : letter ∈ messages)
      (acknowledged : letter.acknowledged = true)
      (addressed : letter.topic = topic)
      (copied : letter.value = record.value)
      (topicTold : ("original_topic", some (Text.encode record.topic)) ∈ letter.headers)
      (partitionTold :
        ("original_partition", some (Text.encode (toString record.partition))) ∈ letter.headers)
      (offsetTold :
        ("original_offset", some (Text.encode (toString record.offset))) ∈ letter.headers)

/-- Among these records, events with the same identifier are about the same order. -/
def Consistent (records : Record → Prop) : Prop :=
  ∀ record other envelope otherEnvelope eventId, records record → records other →
    Event.decodeOrderCompleted record.value = .ok envelope →
    Event.decodeOrderCompleted other.value = .ok otherEnvelope →
    envelope.eventId = some eventId → otherEnvelope.eventId = some eventId →
      envelope.payload.orderId = otherEnvelope.payload.orderId

variable
  {topic reason : String}
  {record : Record}
  {tables next : Tables}
  {result : Except Failure Unit}
  {letters messages more : List Message}

/-- What accounts for a record lasts, as long as no message is taken back and orders with a shipment
still have one that was announced once. -/
theorem Accounted.lasts
    (accounted : Accounted topic record tables messages)
    (once : ∀ orderId, tables.HasShipment orderId →
      next.shipmentsOf orderId = 1 ∧ announcementsOf (Message.announcements more) orderId = 1)
    (sent : ∀ message ∈ messages, message ∈ more) : Accounted topic record next more := by
  cases accounted with
  | mismatched decoded => exact .mismatched decoded
  | fulfilled decoded one announced =>
      obtain ⟨shipped, told⟩ := once _ (Tables.hasShipment_iff_pos.mpr (one ▸ Nat.one_pos))
      exact .fulfilled decoded shipped told
  | deadLettered member acknowledged addressed copied topicTold partitionTold offsetTold =>
      exact .deadLettered (sent _ member) acknowledged addressed copied topicTold partitionTold
        offsetTold

/-- Copying a body that is no event about a created shipment announces nothing. -/
theorem announcements_of_sending
    (sending : Sending (DeadLetter.letter topic record reason) result letters)
    (other : Event.decodeShippingCreated? record.value = none) :
    Message.announcements letters = [] := by
  cases sending with
  | acknowledged => simp [Message.announcements, Message.announcement?, DeadLetter.letter, other]
  | lost => exact Message.announcements_of_unacknowledged (by simp)
  | unsent => rfl

/-- A copy that the broker has acknowledged accounts for its record. -/
theorem accounted_of_sending
    (sending : Sending (DeadLetter.letter topic record reason) (.ok ()) letters)
    (sent : ∀ letter ∈ letters, letter ∈ messages)
    (tables : Tables) : Accounted topic record tables messages := by
  cases sending with
  | acknowledged =>
      refine .deadLettered (sent _ (.head _)) rfl rfl rfl ?_ ?_ ?_
      all_goals
        refine List.mem_append_left _ ?_
        simp [DeadLetter.serviceHeaders, Header.ofText, DeadLetter.topicHeader,
          DeadLetter.partitionHeader, DeadLetter.offsetHeader]

end Dispatch
end Fulfilment
