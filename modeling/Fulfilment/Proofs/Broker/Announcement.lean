import Fulfilment.Broker.Message
import Fulfilment.Proofs.Event.RoundTrip

/-!
# What the broker was told about shipments

A message announces a shipment if the broker has acknowledged it and its bytes are an event about
a created shipment.  A message that was recorded but not acknowledged announces nothing.
-/

namespace Fulfilment

/-- The event about a created shipment in a body. -/
def Event.decodeShippingCreated? (body : Option Bytes) : Option (Envelope ShippingCreated) :=
  match decode body EventType.shippingCreated.name EventType.version with
  | .ok (.shippingCreated envelope) => some envelope
  | _ => none

/-- What a message announces. -/
def Message.announcement? (message : Message) : Option (Envelope ShippingCreated) :=
  if message.acknowledged then Event.decodeShippingCreated? message.value else none

/-- What messages announce, in the order in which they were sent. -/
def Message.announcements (messages : List Message) : List (Envelope ShippingCreated) :=
  messages.filterMap announcement?

/-- How many announcements are about an order. -/
def announcementsOf
    (announcements : List (Envelope ShippingCreated))
    (orderId : Uuid) : Nat :=
  (announcements.map fun event => event.payload.orderId).count orderId

/-- The number in an envelope. -/
def Envelope.number? (envelope : Envelope Payload) : Option Int :=
  envelope.sequence.map fun number => number.toNat

/-- The numbers that are announced under a key, in order. -/
def numbersUnder
    (announcements : List (Envelope ShippingCreated))
    (key : String) : List (Option Int) :=
  (announcements.filter fun event => event.partitionKey = key).map Envelope.number?

/-- So many numbers, one after the other. -/
def consecutive
    (first : Int)
    (count : Nat) : List (Option Int) :=
  (List.range count).map fun index : Nat => some (first + index)

/-- The first of consecutive numbers is followed by the others. -/
theorem consecutive_succ
    (first : Int)
    (count : Nat) :
    consecutive first (count + 1) = some first :: consecutive (first + 1) count := by
  rw [consecutive, consecutive, List.range_succ_eq_map, List.map_cons, List.map_map,
    List.cons.injEq]
  refine ⟨by simp, List.map_congr_left fun index _ => ?_⟩
  simp only [Function.comp_apply, Option.some.injEq]
  omega

/-- The last of consecutive numbers is preceded by the others. -/
theorem consecutive_concat
    (first : Int)
    (count : Nat) :
    consecutive first (count + 1) = consecutive first count ++ [some (first + count)] := by
  rw [consecutive, consecutive, List.range_succ, List.map_append, List.map_singleton]

/-- Consecutive numbers go on where those before them end. -/
theorem consecutive_add
    (first : Int)
    (count more : Nat) :
    consecutive first (count + more) =
      consecutive first count ++ consecutive (first + count) more := by
  simp [consecutive, List.range_add, Function.comp_def, Int.add_assoc]

/-- Announcements under a key are those of their parts. -/
theorem numbersUnder_append
    (earlier later : List (Envelope ShippingCreated))
    (key : String) :
    numbersUnder (earlier ++ later) key = numbersUnder earlier key ++ numbersUnder later key := by
  simp [numbersUnder]

/-- Announcements about an order are those of their parts. -/
theorem announcementsOf_append
    (earlier later : List (Envelope ShippingCreated))
    (orderId : Uuid) :
    announcementsOf (earlier ++ later) orderId =
      announcementsOf earlier orderId + announcementsOf later orderId := by
  simp [announcementsOf]

/-- The bytes of an event about a created shipment are read as that event. -/
theorem Event.decodeShippingCreated?_encode
    {created : Envelope ShippingCreated}
    (typed : (Event.shippingCreated created).IsTyped) :
    decodeShippingCreated? (some (Event.shippingCreated created).encode) = some created := by
  have decoded := decode_encode typed
  simp only [Event.type] at decoded
  simp [decodeShippingCreated?, decoded]

namespace Message

/-- No messages announce nothing. -/
@[simp]
theorem announcements_nil : announcements [] = [] := rfl

/-- Messages announce what their parts announce, one after the other. -/
@[simp]
theorem announcements_append (earlier later : List Message) :
    announcements (earlier ++ later) = announcements earlier ++ announcements later :=
  List.filterMap_append

/-- Messages that the broker has not acknowledged announce nothing. -/
theorem announcements_of_unacknowledged
    {messages : List Message}
    (unacknowledged : ∀ message ∈ messages, message.acknowledged = false) :
    announcements messages = [] := by
  refine List.filterMap_eq_nil_iff.mpr fun message member => ?_
  simp [announcement?, unacknowledged message member]

/-- An acknowledged message with the bytes of an event announces that event. -/
theorem announcement?_encode
    {message : Message}
    {created : Envelope ShippingCreated}
    (typed : (Event.shippingCreated created).IsTyped)
    (acknowledged : message.acknowledged = true)
    (written : message.value = some (Event.shippingCreated created).encode) :
    message.announcement? = some created := by
  simp [announcement?, acknowledged, written, Event.decodeShippingCreated?_encode typed]

end Message

end Fulfilment
