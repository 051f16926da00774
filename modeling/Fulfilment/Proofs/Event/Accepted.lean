import Fulfilment.Proofs.Event.RoundTrip
import Fulfilment.Workflow

/-!
# Writing what was read

A body is read as an event only if the header of the body names the event's own type.  Whatever
spelling the body has, the bytes of the event are then JSON that is read as the same event again.
So a body that was rewritten once stays as it is, and bodies with one written form are read as one
event.
-/

namespace Fulfilment
namespace Schema

namespace Reading

theorem map_eq_ok_iff
    {change : α → β}
    {reading : Reading α}
    {result : β} :
    change <$> reading = .ok result ↔ ∃ value, reading = .ok value ∧ change value = result := by
  change map change reading = .ok result ↔ _
  cases reading <;> simp [map]

theorem seq_eq_ok_iff
    {first : Reading (α → β)}
    {second : Reading α}
    {result : β} :
    first <*> second = .ok result ↔
      ∃ change value, first = .ok change ∧ second = .ok value ∧ change value = result :=
  both_eq_ok_iff

theorem under_eq_ok_iff
    {name : String}
    {reading : Reading α}
    {value : α} : reading.under name = .ok value ↔ reading = .ok value := by
  cases reading <;> simp [under]

end Reading

theorem field_eq_ok_iff
    {name : String}
    {read : Json → Reading α}
    {members : Members}
    {value : α} :
    field name read members = .ok value ↔
      ∃ found, Json.lookup? name members = some found ∧ read found = .ok value := by
  unfold field
  cases Json.lookup? name members with
  | none => simp [Reading.issue, Reading.under]
  | some found => simp [Reading.under_eq_ok_iff]

theorem integer_of_positiveInteger
    {value : Json}
    {number : Int}
    (read : positiveInteger value = .ok number) : integer value = .ok number := by
  unfold positiveInteger at read
  cases whole : integer value with
  | ok other =>
      rw [whole, Reading.andThen] at read
      split at read
      · exact read
      · cases read
  | invalid issues =>
      rw [whole] at read
      cases read
  | outOfCalendar =>
      rw [whole] at read
      cases read

/-- Bytes are a JSON value exactly if they are the UTF-8 of a text that spells it. -/
theorem body_eq_ok_iff
    {bytes : Bytes}
    {value : Json} :
    body (some bytes) = .ok value ↔
      ∃ characters, Text.decodeChars? bytes = some characters
        ∧ Json.read? characters = some value := by
  simp only [body, ← Option.bind_eq_some_iff]
  cases (Text.decodeChars? bytes).bind Json.read? with
  | none => simp [Reading.ofOption, Reading.issue]
  | some found => simp [Reading.ofOption]

/-- The header of an envelope that was read has the envelope's name and version. -/
theorem header_of_envelope
    {readPayload : Json → Reading Payload}
    {value : Json}
    {read : Envelope Payload}
    (accepted : envelope readPayload value = .ok read) :
    header value = .ok (read.eventName, read.eventVersion) := by
  cases value with
  | scalar _ => cases accepted
  | array _ => cases accepted
  | object members =>
      simp only [envelope, object, Reading.seq_eq_ok_iff, Reading.map_eq_ok_iff] at accepted
      -- Only the first two of the eleven fields are the header.
      obtain ⟨_, payload, ⟨_, schema, ⟨_, moment, ⟨_, sequence, ⟨_, key, ⟨_, producer,
        ⟨_, causation, ⟨_, correlation, ⟨_, identifier, ⟨_, version, ⟨name, named, rfl⟩,
        numbered, rfl⟩, -, rfl⟩, -, rfl⟩, -, rfl⟩, -, rfl⟩, -, rfl⟩, -, rfl⟩, -, rfl⟩, -, rfl⟩,
        -, rfl⟩ := accepted
      obtain ⟨found, isFound, positive⟩ := field_eq_ok_iff.mp numbered
      have whole : field "eventVersion" integer members = .ok version :=
        field_of_lookup? isFound (integer_of_positiveInteger positive)
      simp only [header, object, named, whole, Reading.map_ok, Reading.seq_ok]

/-- The header of an event that was read has the event's name and version. -/
theorem header_of_event
    {type : EventType}
    {value : Json}
    {read : Event}
    (accepted : event type value = .ok read) :
    header value = .ok (read.name, read.version) ∧ read.type = type := by
  cases type with
  | orderCompleted =>
      obtain ⟨completed, whole, rfl⟩ := Reading.map_eq_ok_iff.mp accepted
      exact ⟨header_of_envelope whole, rfl⟩
  | shippingCreated =>
      obtain ⟨created, whole, rfl⟩ := Reading.map_eq_ok_iff.mp accepted
      exact ⟨header_of_envelope whole, rfl⟩

end Schema

/-- A type is registered under its own name and the only version. -/
theorem EventType.eq_of_registered?
    {name : String}
    {version : Int}
    {type : EventType}
    (registered : registered? name version = some type) :
    type.name = name ∧ version = EventType.version := by
  unfold registered? at registered
  split at registered
  · cases registered
  · next same =>
      refine ⟨by simpa using List.find?_some registered, ?_⟩
      exact Decidable.not_not.mp same

namespace Event

/-- A body is read as an event exactly if it is JSON whose header names the wanted, registered type
and which is an event of that type. -/
theorem decode_eq_ok_iff
    {body : Option Bytes}
    {name : String}
    {version : Int}
    {event : Event} :
    decode body name version = .ok event ↔
      ∃ value type, Schema.body body = .ok value
        ∧ Schema.header value = .ok (name, version)
        ∧ EventType.registered? name version = some type
        ∧ Schema.event type value = .ok event := by
  constructor
  · intro decoded
    unfold decode at decoded
    split at decoded
    · next value isJson =>
        unfold ofJson at decoded
        split at decoded
        · cases decoded
        · cases decoded
        · next givenName givenVersion given =>
            split at decoded
            · next same =>
                obtain ⟨rfl, rfl⟩ := same
                split at decoded
                · cases decoded
                · next type registered =>
                    split at decoded
                    · next accepted =>
                        cases decoded
                        exact ⟨value, type, isJson, given, registered, accepted⟩
                    · cases decoded
                    · cases decoded
            · cases decoded
    · cases decoded
    · cases decoded
  · rintro ⟨value, type, isJson, given, registered, accepted⟩
    simp [decode, isJson, ofJson, given, registered, accepted]

/-- An event that was read has the name and version of its type, and these were wanted. -/
theorem isTyped_of_decode
    {body : Option Bytes}
    {name : String}
    {version : Int}
    {event : Event}
    (decoded : decode body name version = .ok event) :
    event.IsTyped ∧ event.type.name = name ∧ version = EventType.version := by
  obtain ⟨value, type, -, given, registered, accepted⟩ := decode_eq_ok_iff.mp decoded
  obtain ⟨named, rfl⟩ := EventType.eq_of_registered? registered
  obtain ⟨own, rfl⟩ := Schema.header_of_event accepted
  have same : (name, EventType.version) = (event.name, event.version) := by
    rw [given] at own
    exact Schema.Reading.ok.inj own
  obtain ⟨sameName, sameVersion⟩ := Prod.mk.inj same
  exact ⟨⟨sameName.symm.trans named.symm, sameVersion.symm⟩, named, rfl⟩

/-- The bytes of the event that is read from a body. -/
def rewrite?
    (name : String)
    (version : Int)
    (body : Option Bytes) : Option Bytes :=
  match decode body name version with
  | .ok event => some event.encode
  | .error _ => none

theorem rewrite?_of_decode
    {body : Option Bytes}
    {name : String}
    {version : Int}
    {event : Event}
    (decoded : decode body name version = .ok event) :
    rewrite? name version body = some event.encode := by
  simp only [rewrite?, decoded]

/-- The bytes of an event of a registered type are JSON in UTF-8, are read as that very event, and
stay as they are when they are rewritten. -/
structure Survives
    (event : Event)
    (name : String)
    (version : Int) : Prop where
  registered : EventType.registered? name version = some event.type
  isJson : ∃ characters, Text.decodeChars? event.encode = some characters
    ∧ Json.read? characters = some (Wire.event event)
  readBack : decode (some event.encode) name version = .ok event
  stable : rewrite? name version (some event.encode) = some event.encode

/-- Every event with the name and version of its type survives. -/
theorem IsTyped.survives
    {event : Event}
    (typed : event.IsTyped) : event.Survives event.type.name EventType.version where
  registered := registered?_name event.type
  isJson := Schema.body_eq_ok_iff.mp (body_encode typed)
  readBack := decode_encode typed
  stable := rewrite?_of_decode (decode_encode typed)

/-- Events that are written alike are equal. -/
theorem IsTyped.eq_of_encode_eq
    {event other : Event}
    (typed : event.IsTyped)
    (otherTyped : other.IsTyped)
    (same : other.encode = event.encode) : other = event := by
  have written := body_encode otherTyped
  rw [same, body_encode typed] at written
  have trees : Wire.event event = Wire.event other := Schema.Reading.ok.inj written
  have headers := header_event other
  rw [← trees, header_event] at headers
  obtain ⟨sameName, -⟩ := Prod.mk.inj (Schema.Reading.ok.inj headers)
  rw [typed.1, otherTyped.1] at sameName
  have readBack := decode_encode otherTyped
  rw [same, ← sameName, decode_encode typed] at readBack
  exact (Except.ok.inj readBack).symm

/-- Every event that is read from a body survives, however the body was spelled.  So rewriting a
body twice is rewriting it once, and bodies that are written alike were read as one event.  The
event about a created shipment survives too, whatever it is made of. -/
theorem survives_of_decode
    {body : Option Bytes}
    {name : String}
    {version : Int}
    {event : Event}
    (decoded : decode body name version = .ok event) :
    event.Survives name version
      ∧ rewrite? name version (rewrite? name version body) = rewrite? name version body
      ∧ (∀ otherBody otherName otherVersion other,
        decode otherBody otherName otherVersion = .ok other →
          other.encode = event.encode → other = event)
      ∧ ∀ inbound shipment producer eventId sequence,
        (Event.shippingCreated
          (Workflow.shippingCreated inbound shipment producer eventId sequence)).Survives
            EventType.shippingCreated.name EventType.version := by
  obtain ⟨typed, rfl, rfl⟩ := isTyped_of_decode decoded
  have survives := typed.survives
  refine ⟨survives, ?_, ?_, ?_⟩
  · rw [rewrite?_of_decode decoded]
    exact survives.stable
  · intro otherBody otherName otherVersion other otherDecoded same
    obtain ⟨otherTyped, -, -⟩ := isTyped_of_decode otherDecoded
    exact typed.eq_of_encode_eq otherTyped same
  · intro inbound shipment producer eventId sequence
    have typed : (shippingCreated
        (Workflow.shippingCreated inbound shipment producer eventId sequence)).IsTyped := ⟨rfl, rfl⟩
    exact typed.survives

/-- A completed order in a spelling of its own: members out of order, escaped letters, an unknown
and a repeated member, numbers as texts, and times before UTC and since 1970. -/
def unusualSpelling : List Char :=
  "\x7b\"eventVersion\":\"1\",\"eventName\":\"\\u004frderCompleted\",".toList
    ++ "\"schemaRef\":\"a\",\"producer\":\"p\",\"producer\":\"\\\"\",".toList
    ++ "\"sequence\":\"18446744073709551615\",\"note\":[1,2],".toList
    ++ "\"occurredAt\":\"2024-02-29 23:30:00.5-01:30\",\"payload\":".toList
    ++ "\x7b\"orderId\":\"\x7b00000000-0000-4000-8000-00000000000A\x7d\",".toList
    ++ "\"userId\":\"0000000000004000800000000000000b\",".toList
    ++ "\"timestamp\":1714564800.25\x7d\x7d".toList

/-- What the UTF-8 of a text is decoded to is settled by the JSON value that the text spells. -/
theorem decode_of_read?
    {characters : List Char}
    {value : Json}
    {name : String}
    {version : Int}
    {result : Except DecodeError Event}
    (read : Json.read? characters = some value)
    (told : ofJson name version value = result) :
    decode (some (Text.encodeChars characters)) name version = result := by
  have isJson : Schema.body (some (Text.encodeChars characters)) = .ok value :=
    Schema.body_eq_ok_iff.mpr ⟨characters, Text.decodeChars?_encodeChars characters, read⟩
  rw [decode, isJson]
  exact told

/-- The order in the unusual spelling is read, and it survives. -/
theorem survives_of_decode_unusualSpelling :
    ∃ event,
      decode (some (Text.encodeChars unusualSpelling)) EventType.orderCompleted.name
          EventType.version = .ok event
        ∧ event.Survives EventType.orderCompleted.name EventType.version
        ∧ rewrite? EventType.orderCompleted.name EventType.version (some event.encode) =
          some event.encode := by
  have accepted :
      ((Json.read? unusualSpelling).elim false fun value =>
        (ofJson EventType.orderCompleted.name EventType.version value).toOption.isSome) = true := by
    unfold unusualSpelling
    simp only [String.reduceToList]
    decide +kernel
  cases read : Json.read? unusualSpelling with
  | none => simp [read] at accepted
  | some value =>
      cases told : ofJson EventType.orderCompleted.name EventType.version value with
      | error error => simp [read, told, Except.toOption] at accepted
      | ok event =>
          have decoded := decode_of_read? read told
          obtain ⟨survives, -⟩ := survives_of_decode decoded
          exact ⟨event, decoded, survives, survives.stable⟩

end Event
end Fulfilment
