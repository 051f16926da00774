import Fulfilment.Failure
import Fulfilment.Proofs.Event.Accepted

/-!
# Bodies that are not refused

A body that is no event of the wanted type is refused with an error of the codec.  There is one
exception: the header is that of the wanted type, and a value that is read as a moment is a datetime
whose UTC lies outside the calendar.  Such a body is neither read nor refused, whatever else is
right or wrong with it.
-/

namespace Fulfilment

/-- A value in UTC that lies outside the calendar. -/
def Schema.Overruns (told : Json) : Prop :=
  ∃ datetime, Schema.datetime told = .ok datetime
    ∧ (datetime.instant < 0
      ∨ (Date.calendarDays * TimeOfDay.perDay : Nat) ≤ datetime.instant)

namespace Schema

namespace Reading

theorem ofOption_ne_outOfCalendar
    (kind : IssueKind)
    (value : Option α) :
    ofOption kind value ≠ .outOfCalendar := by
  cases value <;> simp [ofOption, issue]

theorem map_eq_outOfCalendar_iff
    {change : α → β}
    {reading : Reading α} :
    change <$> reading = .outOfCalendar ↔ reading = .outOfCalendar := by
  change map change reading = .outOfCalendar ↔ _
  cases reading <;> simp [map]

/-- One part outside the calendar is enough, whatever is wrong with the other. -/
theorem seq_eq_outOfCalendar_iff
    {first : Reading (α → β)}
    {second : Reading α} :
    first <*> second = .outOfCalendar ↔ first = .outOfCalendar ∨ second = .outOfCalendar := by
  change both first second = .outOfCalendar ↔ _
  cases first <;> cases second <;> simp [both]

theorem andThen_eq_outOfCalendar_iff
    {reading : Reading α}
    {next : α → Reading β} :
    reading.andThen next = .outOfCalendar ↔
      reading = .outOfCalendar ∨ ∃ value, reading = .ok value ∧ next value = .outOfCalendar := by
  cases reading <;> simp [andThen]

theorem under_eq_outOfCalendar_iff
    {name : String}
    {reading : Reading α} :
    reading.under name = .outOfCalendar ↔ reading = .outOfCalendar := by
  cases reading <;> simp [under]

end Reading

/-! ## Scalars -/

@[simp]
theorem string_ne_outOfCalendar (value : Json) : string value ≠ .outOfCalendar := by
  unfold string
  split <;> simp [Reading.issue]

theorem integerOfDouble_ne_outOfCalendar (number : Number.Double) :
    integerOfDouble number ≠ .outOfCalendar := by
  unfold integerOfDouble
  split
  · simp [Reading.issue]
  · dsimp only
    split
    · simp [Reading.issue]
    · split <;> simp [Reading.issue]

theorem integerOfText_ne_outOfCalendar (text : String) :
    integerOfText text ≠ .outOfCalendar := by
  unfold integerOfText
  split <;> simp [Reading.issue]

@[simp]
theorem integer_ne_outOfCalendar (value : Json) : integer value ≠ .outOfCalendar := by
  unfold integer
  split
  · simp
  · simp
  · exact integerOfDouble_ne_outOfCalendar _
  · exact integerOfText_ne_outOfCalendar _
  all_goals simp [Reading.issue]

@[simp]
theorem positiveInteger_ne_outOfCalendar (value : Json) :
    positiveInteger value ≠ .outOfCalendar := by
  rw [positiveInteger, Ne, Reading.andThen_eq_outOfCalendar_iff]
  rintro (whole | ⟨number, -, checked⟩)
  · exact integer_ne_outOfCalendar value whole
  · split at checked <;> simp [Reading.issue] at checked

theorem word_ne_outOfCalendar (number : Int) : word number ≠ .outOfCalendar := by
  unfold word
  split
  · simp [Reading.issue]
  · split <;> simp [Reading.issue]

@[simp]
theorem unsigned_ne_outOfCalendar (value : Json) : unsigned value ≠ .outOfCalendar := by
  rw [unsigned, Ne, Reading.andThen_eq_outOfCalendar_iff]
  rintro (whole | ⟨number, -, checked⟩)
  · exact integer_ne_outOfCalendar value whole
  · exact word_ne_outOfCalendar number checked

@[simp]
theorem uuid_ne_outOfCalendar (value : Json) : uuid value ≠ .outOfCalendar := by
  unfold uuid
  split
  · exact Reading.ofOption_ne_outOfCalendar _ _
  · simp [Reading.issue]

/-- A datetime is read as it was told, so no calendar ends here. -/
@[simp]
theorem datetime_ne_outOfCalendar (value : Json) : datetime value ≠ .outOfCalendar := by
  unfold datetime
  split
  · split <;> simp [Reading.issue]
  · split
    · exact Reading.ofOption_ne_outOfCalendar _ _
    · simp [Reading.issue]
  · exact Reading.ofOption_ne_outOfCalendar _ _
  all_goals simp [Reading.issue]

/-- Only a datetime is told in UTC, so only there the calendar ends. -/
theorem moment_eq_outOfCalendar_iff {told : Json} :
    moment told = .outOfCalendar ↔ Overruns told := by
  rw [moment, Reading.andThen_eq_outOfCalendar_iff, Overruns]
  simp only [datetime_ne_outOfCalendar, false_or, ← DateTime.moment?_eq_none_iff]
  refine exists_congr fun datetime => and_congr_right fun _ => ?_
  cases datetime.moment? <;> simp

/-! ## Members -/

section Members

variable {members : Members} {name otherName : String} {read : Json → Reading α}

theorem field_eq_outOfCalendar_iff :
    field name read members = .outOfCalendar ↔
      ∃ found, Json.lookup? name members = some found ∧ read found = .outOfCalendar := by
  unfold field
  cases Json.lookup? name members with
  | none => simp [Reading.under_eq_outOfCalendar_iff, Reading.issue]
  | some found => simp [Reading.under_eq_outOfCalendar_iff]

theorem fieldOr_ne_outOfCalendar
    {default : α}
    (never : ∀ found, read found ≠ .outOfCalendar) :
    fieldOr name default read members ≠ .outOfCalendar := by
  unfold fieldOr
  cases Json.lookup? name members with
  | none => simp
  | some found => simp [Reading.under_eq_outOfCalendar_iff, never]

theorem optionalField_ne_outOfCalendar (never : ∀ found, read found ≠ .outOfCalendar) :
    optionalField name read members ≠ .outOfCalendar := by
  refine fieldOr_ne_outOfCalendar fun found => ?_
  unfold nullable
  split
  · simp
  · exact fun outside => never _ (Reading.map_eq_outOfCalendar_iff.mp outside)

theorem fieldOrUnder_ne_outOfCalendar (never : ∀ found, read found ≠ .outOfCalendar) :
    fieldOrUnder name otherName read members ≠ .outOfCalendar := by
  unfold fieldOrUnder
  split
  · simp [Reading.under_eq_outOfCalendar_iff, never]
  · simp [Reading.under_eq_outOfCalendar_iff, never]
  · simp [Reading.under_eq_outOfCalendar_iff, Reading.issue]

end Members

/-- The member of a name, of a value that has members. -/
def member?
    (name : String)
    (value : Json) : Option Json :=
  match value with
  | .object members => Json.lookup? name members
  | .scalar _ | .array _ => none

theorem member?_eq_some_iff
    {name : String}
    {value told : Json} :
    member? name value = some told ↔
      ∃ members, value = .object members ∧ Json.lookup? name members = some told := by
  cases value <;> simp [member?]

/-- Only what an object holds can be outside the calendar. -/
theorem object_eq_outOfCalendar_iff
    {read : Members → Reading α}
    {value : Json} :
    object read value = .outOfCalendar ↔
      ∃ members, value = .object members ∧ read members = .outOfCalendar := by
  cases value <;> simp [object, Reading.issue]

/-! ## Events -/

@[simp]
theorem address_ne_outOfCalendar (value : Json) : address value ≠ .outOfCalendar := by
  simp [address, object_eq_outOfCalendar_iff, Reading.seq_eq_outOfCalendar_iff,
    Reading.map_eq_outOfCalendar_iff, field_eq_outOfCalendar_iff, optionalField_ne_outOfCalendar]

/-- The timestamp of a completed order is kept as it was told. -/
theorem orderCompleted_ne_outOfCalendar (value : Json) :
    orderCompleted value ≠ .outOfCalendar := by
  simp [orderCompleted, object_eq_outOfCalendar_iff, Reading.seq_eq_outOfCalendar_iff,
    Reading.map_eq_outOfCalendar_iff, field_eq_outOfCalendar_iff]

theorem header_ne_outOfCalendar (value : Json) : header value ≠ .outOfCalendar := by
  simp [header, object_eq_outOfCalendar_iff, Reading.seq_eq_outOfCalendar_iff,
    Reading.map_eq_outOfCalendar_iff, field_eq_outOfCalendar_iff]

theorem shippingCreated_eq_outOfCalendar_iff {value : Json} :
    shippingCreated value = .outOfCalendar ↔
      ∃ told, member? "createdAt" value = some told ∧ Overruns told := by
  simp only [shippingCreated, object_eq_outOfCalendar_iff, member?_eq_some_iff,
    Reading.seq_eq_outOfCalendar_iff, Reading.map_eq_outOfCalendar_iff, field_eq_outOfCalendar_iff,
    moment_eq_outOfCalendar_iff, string_ne_outOfCalendar, uuid_ne_outOfCalendar,
    address_ne_outOfCalendar, and_false, exists_false, false_or]
  grind

theorem envelope_eq_outOfCalendar_iff
    {readPayload : Json → Reading Payload}
    {value : Json} :
    envelope readPayload value = .outOfCalendar ↔
      (∃ told, member? "occurredAt" value = some told ∧ Overruns told)
        ∨ ∃ payload, member? "payload" value = some payload
          ∧ readPayload payload = .outOfCalendar := by
  simp only [envelope, object_eq_outOfCalendar_iff, member?_eq_some_iff,
    Reading.seq_eq_outOfCalendar_iff, Reading.map_eq_outOfCalendar_iff, field_eq_outOfCalendar_iff,
    moment_eq_outOfCalendar_iff, string_ne_outOfCalendar, positiveInteger_ne_outOfCalendar,
    optionalField_ne_outOfCalendar uuid_ne_outOfCalendar,
    optionalField_ne_outOfCalendar unsigned_ne_outOfCalendar,
    fieldOr_ne_outOfCalendar string_ne_outOfCalendar,
    fieldOrUnder_ne_outOfCalendar string_ne_outOfCalendar, and_false, exists_false, false_or,
    or_false]
  grind

/-- The values that are read as moments in a value that is read as an event of a type. -/
def momentsTold
    (type : EventType)
    (value : Json) : List Json :=
  match type with
  | .orderCompleted => (member? "occurredAt" value).toList
  | .shippingCreated =>
      (member? "occurredAt" value).toList
        ++ ((member? "payload" value).bind (member? "createdAt")).toList

theorem event_eq_outOfCalendar_iff
    {type : EventType}
    {value : Json} :
    event type value = .outOfCalendar ↔ ∃ told ∈ momentsTold type value, Overruns told := by
  cases type with
  | orderCompleted =>
      change Event.orderCompleted <$> envelope orderCompleted value = .outOfCalendar ↔ _
      simp [momentsTold, Reading.map_eq_outOfCalendar_iff, envelope_eq_outOfCalendar_iff,
        orderCompleted_ne_outOfCalendar]
  | shippingCreated =>
      change Event.shippingCreated <$> envelope shippingCreated value = .outOfCalendar ↔ _
      rw [Reading.map_eq_outOfCalendar_iff, envelope_eq_outOfCalendar_iff]
      simp only [momentsTold, List.mem_append, Option.mem_toList, Option.bind_eq_some_iff,
        shippingCreated_eq_outOfCalendar_iff]
      grind

theorem body_ne_outOfCalendar (bytes : Option Bytes) : body bytes ≠ .outOfCalendar := by
  cases bytes with
  | none => simp [body, Reading.issue]
  | some bytes => exact Reading.ofOption_ne_outOfCalendar _ _

end Schema

/-- A failure with which the codec refuses a body: an event of another shape, or no event. -/
inductive Failure.IsRefusal : Failure → Prop where
  | shapeMismatch
      (name : Option String)
      (version : Option Int) :
      IsRefusal (.service (.shapeMismatch name version))
  | undecodable
      (statement : Option String)
      (details : List (String × Json)) :
      IsRefusal (.service (.undecodable statement details))

/-- Every way in which a body is no event is a refusal, but for one. -/
theorem DecodeError.isRefusal_toFailure_iff (error : DecodeError) :
    error.toFailure.IsRefusal ↔ error ≠ .outOfCalendar := by
  cases error with
  | malformed issues => exact iff_of_true (.undecodable _ _) (by simp)
  | shapeMismatch name version => exact iff_of_true (.shapeMismatch _ _) (by simp)
  | invalid name version issues => exact iff_of_true (.undecodable _ _) (by simp)
  | outOfCalendar => exact iff_of_false (fun refusal => nomatch refusal) (by simp)

namespace Event

/-- A body is outside the calendar exactly if its header is that of the wanted, registered type and
a value that is read as a moment of such an event overruns. -/
theorem decode_eq_outOfCalendar_iff
    {body : Option Bytes}
    {name : String}
    {version : Int} :
    decode body name version = .error .outOfCalendar ↔
      ∃ value type, Schema.body body = .ok value
        ∧ Schema.header value = .ok (name, version)
        ∧ EventType.registered? name version = some type
        ∧ ∃ told ∈ Schema.momentsTold type value, Schema.Overruns told := by
  simp only [← Schema.event_eq_outOfCalendar_iff]
  constructor
  · intro decoded
    unfold decode at decoded
    split at decoded
    · next value isJson =>
        unfold ofJson at decoded
        split at decoded
        · cases decoded
        · next outside => exact absurd outside (Schema.header_ne_outOfCalendar value)
        · next givenName givenVersion given =>
            split at decoded
            · next same =>
                obtain ⟨rfl, rfl⟩ := same
                split at decoded
                · cases decoded
                · next type registered =>
                    split at decoded
                    · cases decoded
                    · cases decoded
                    · next outside => exact ⟨value, type, isJson, given, registered, outside⟩
            · cases decoded
    · cases decoded
    · next outside => exact absurd outside (Schema.body_ne_outOfCalendar body)
  · rintro ⟨value, type, isJson, given, registered, outside⟩
    simp [decode, isJson, ofJson, given, registered, outside]

/-- A body is neither read nor refused. -/
def Escapes
    (body : Option Bytes)
    (name : String)
    (version : Int) : Prop :=
  ∃ error, decode body name version = .error error ∧ ¬error.toFailure.IsRefusal

theorem escapes_iff_outOfCalendar
    {body : Option Bytes}
    {name : String}
    {version : Int} :
    Escapes body name version ↔ decode body name version = .error .outOfCalendar := by
  simp [Escapes, DecodeError.isRefusal_toFailure_iff]

/-- Every body is read, or it is refused, or it escapes.  It escapes exactly if its header is that
of the wanted, registered type and the UTC of a moment that such an event tells lies outside the
calendar; what ends the reading is then that alone. -/
theorem escapes_iff
    (body : Option Bytes)
    (name : String)
    (version : Int) :
    (Escapes body name version ↔
      ∃ value type, Schema.body body = .ok value
        ∧ Schema.header value = .ok (name, version)
        ∧ EventType.registered? name version = some type
        ∧ ∃ told ∈ Schema.momentsTold type value, Schema.Overruns told)
      ∧ ∀ error, decode body name version = .error error →
          error.toFailure.IsRefusal ∨ error.toFailure = .outOfCalendar := by
  refine ⟨escapes_iff_outOfCalendar.trans decode_eq_outOfCalendar_iff, fun error _ => ?_⟩
  rw [DecodeError.isRefusal_toFailure_iff]
  by_cases outside : error = .outOfCalendar
  · exact .inr (outside ▸ rfl)
  · exact .inl outside

/-- A completed order that occurred in the first minute of the calendar, told a minute ahead of
UTC. -/
def beforeCalendar : List Char :=
  "\x7b\"eventName\":\"OrderCompleted\",\"eventVersion\":1,\"producer\":\"p\",".toList
    ++ "\"occurredAt\":\"0001-01-01T00:00:00+00:01\",\"schema\":\"s\",\"payload\":".toList
    ++ "\x7b\"orderId\":\"00000000-0000-4000-8000-00000000000a\",".toList
    ++ "\"userId\":\"00000000-0000-4000-8000-00000000000b\",".toList
    ++ "\"timestamp\":\"2024-05-01T12:00:00Z\"\x7d\x7d".toList

/-- The order before the calendar is well-formed, and it is neither read nor refused. -/
theorem escapes_beforeCalendar :
    Escapes (some (Text.encodeChars beforeCalendar)) EventType.orderCompleted.name
      EventType.version := by
  rw [escapes_iff_outOfCalendar]
  have outside :
      ((Json.read? beforeCalendar).elim false fun value =>
        match ofJson EventType.orderCompleted.name EventType.version value with
        | .error .outOfCalendar => true
        | _ => false) = true := by
    unfold beforeCalendar
    simp only [String.reduceToList]
    decide +kernel
  cases read : Json.read? beforeCalendar with
  | none => simp [read] at outside
  | some value =>
      refine decode_of_read? read ?_
      rw [read, Option.elim_some] at outside
      split at outside
      · next told => exact told
      · cases outside

end Event
end Fulfilment
