import Fulfilment.Proofs.Event.Passes
import Mathlib.Algebra.Ring.Nat

/-!
# The header alone decides the shape

A body is read in two passes.  The first one looks at the name and the version only, and it alone
decides whether the body is an event of another shape: nothing else in the body can make it one or
keep it from being one.  The second pass reads the name and the version once more and agrees with
the first one, so an event that is read has the wanted name, version and type, however the body
spells them.
-/

namespace Fulfilment

namespace Event

/-- The number of an event. -/
def sequence? (event : Event) : Option UInt64 :=
  match event with
  | .orderCompleted envelope => envelope.sequence
  | .shippingCreated envelope => envelope.sequence

/-- The moment at which an event occurred. -/
def occurredAt (event : Event) : Moment :=
  match event with
  | .orderCompleted envelope => envelope.occurredAt
  | .shippingCreated envelope => envelope.occurredAt

/-- The number and the moment of an event that was read stand in its members. -/
theorem members_of_event
    {type : EventType}
    {members : Schema.Members}
    {event : Event}
    (accepted : Schema.event type (.object members) = .ok event) :
    Schema.optionalField "sequence" Schema.unsigned members = .ok event.sequence?
      ∧ Schema.field "occurredAt" Schema.moment members = .ok event.occurredAt := by
  cases type with
  | orderCompleted =>
      obtain ⟨completed, whole, rfl⟩ := Schema.Reading.map_eq_ok_iff.mp accepted
      exact Schema.members_of_envelope whole
  | shippingCreated =>
      obtain ⟨created, whole, rfl⟩ := Schema.Reading.map_eq_ok_iff.mp accepted
      exact Schema.members_of_envelope whole

section Headers

variable {body other : Option Bytes} {name : String} {version : Int}

/-- A body is a JSON object whose last member of a name has a value. -/
def Tells
    (body : Option Bytes)
    (name : String)
    (told : Json) : Prop :=
  ∃ members, Schema.body body = .ok (.object members) ∧ Json.IsLast name told members

/-- A body has a name and a version that can be read. -/
def Carries
    (body : Option Bytes)
    (name : String)
    (version : Int) : Prop :=
  Tells body "eventName" (.string name)
    ∧ ∃ told, Tells body "eventVersion" told ∧ Schema.Spells told version

/-- Two bodies are JSON objects that agree on the name and the version, and perhaps on nothing
else. -/
def SharesHeader (body other : Option Bytes) : Prop :=
  (∃ members, Schema.body body = .ok (.object members))
    ∧ (∃ members, Schema.body other = .ok (.object members))
    ∧ ∀ name ∈ ["eventName", "eventVersion"], ∀ told, Tells body name told ↔ Tells other name told

/-- Reading a body ends with a failure. -/
def Raises
    (body : Option Bytes)
    (name : String)
    (version : Int)
    (failure : Failure) : Prop :=
  ∃ error, decode body name version = .error error ∧ error.toFailure = failure

/-- A header that is not the wanted one, or that no type is registered under. -/
def Mismatches
    (name : String)
    (version : Int)
    (givenName : String)
    (givenVersion : Int) : Prop :=
  (givenName, givenVersion) ≠ (name, version) ∨ EventType.registered? name version = none

theorem header_eq_ok_iff_carries
    {value : Json}
    (isJson : Schema.body body = .ok value) :
    Schema.header value = .ok (name, version) ↔ Carries body name version := by
  rw [Schema.header_eq_ok_iff]
  constructor
  · rintro ⟨members, told, rfl, named, numbered, spells⟩
    exact ⟨⟨members, isJson, named⟩, told, ⟨members, isJson, numbered⟩, spells⟩
  · rintro ⟨⟨members, isObject, named⟩, told, ⟨others, isOther, numbered⟩, spells⟩
    have same : Json.object members = value := by simpa [isJson, eq_comm] using isObject
    have sameOthers : Json.object others = value := by simpa [isJson, eq_comm] using isOther
    obtain rfl : members = others := Json.object.inj (same.trans sameOthers.symm)
    exact ⟨members, told, same.symm, named, numbered, spells⟩

/-- A body carries one header at most. -/
theorem Carries.unique
    {otherName : String}
    {otherVersion : Int}
    (carried : Carries body name version)
    (otherCarried : Carries body otherName otherVersion) :
    (name, version) = (otherName, otherVersion) := by
  obtain ⟨members, isJson, -⟩ := carried.1
  have first := (header_eq_ok_iff_carries isJson).mpr carried
  rw [(header_eq_ok_iff_carries isJson).mpr otherCarried] at first
  exact (Schema.Reading.ok.inj first).symm

theorem SharesHeader.carries_iff (shared : SharesHeader body other) :
    Carries body name version ↔ Carries other name version := by
  obtain ⟨-, -, alike⟩ := shared
  simp only [Carries, alike "eventName" (by decide), alike "eventVersion" (by decide)]

/-- The ways in which reading a body ends, by the header that the body carries. -/
inductive Decision
    (body : Option Bytes)
    (name : String)
    (version : Int) : Except DecodeError Event → Prop where
  /-- No header is carried. -/
  | headless {issues : List Schema.Issue}
      (bare : ∀ givenName givenVersion, ¬Carries body givenName givenVersion) :
      Decision body name version (.error (.malformed issues))
  /-- Another header is carried, or one of no type. -/
  | foreign {givenName : String} {givenVersion : Int}
      (carried : Carries body givenName givenVersion)
      (mismatch : Mismatches name version givenName givenVersion) :
      Decision body name version (.error (.shapeMismatch givenName givenVersion))
  /-- The wanted header is carried, and something else is wrong. -/
  | faulty {issues : List Schema.Issue}
      (carried : Carries body name version)
      (registered : EventType.registered? name version ≠ none)
      (elsewhere : ∀ issue ∈ issues, ∃ name ∈ Schema.otherNames, issue.path.head? = some name) :
      Decision body name version (.error (.invalid name version issues))
  /-- The wanted header is carried, and a moment is outside the calendar. -/
  | outside
      (carried : Carries body name version)
      (registered : EventType.registered? name version ≠ none) :
      Decision body name version (.error .outOfCalendar)
  /-- The wanted header is carried, and the body is an event of its type. -/
  | read {event : Event} {members : Schema.Members}
      (carried : Carries body name version)
      (registered : EventType.registered? name version = some event.type)
      (isJson : Schema.body body = .ok (.object members))
      (accepted : Schema.event event.type (.object members) = .ok event) :
      Decision body name version (.ok event)

theorem decision_decode
    (body : Option Bytes)
    (name : String)
    (version : Int) : Decision body name version (decode body name version) := by
  cases isJson : Schema.body body with
  | outOfCalendar => exact absurd isJson (Schema.body_ne_outOfCalendar body)
  | invalid issues =>
      rw [decode, isJson]
      refine .headless fun givenName givenVersion carried => ?_
      obtain ⟨members, isObject, -⟩ := carried.1
      rw [isJson] at isObject
      cases isObject
  | ok value =>
      cases given : Schema.header value with
      | outOfCalendar => exact absurd given (Schema.header_ne_outOfCalendar value)
      | invalid issues =>
          simp only [decode, isJson, ofJson, given]
          refine .headless fun givenName givenVersion carried => ?_
          rw [← header_eq_ok_iff_carries isJson, given] at carried
          cases carried
      | ok header =>
          obtain ⟨givenName, givenVersion⟩ := header
          have carried := (header_eq_ok_iff_carries isJson).mp given
          by_cases same : givenName = name ∧ givenVersion = version
          · obtain ⟨rfl, rfl⟩ := same
            cases registered : EventType.registered? givenName givenVersion with
            | none =>
                simp only [decode, isJson, ofJson, given, and_self, if_true, registered]
                exact .foreign carried (.inr registered)
            | some type =>
                obtain ⟨members, -, rfl, -⟩ := Schema.header_eq_ok_iff.mp given
                obtain ⟨rfl, rfl⟩ := EventType.eq_of_registered? registered
                have isKnown : EventType.registered? type.name EventType.version ≠ none := by
                  simp
                cases whole : Schema.event type (.object members) with
                | ok event =>
                    obtain ⟨-, rfl⟩ := Schema.header_of_event whole
                    simp only [decode, isJson, ofJson, given, and_self, if_true, registered, whole]
                    exact .read carried registered isJson whole
                | invalid issues =>
                    simp only [decode, isJson, ofJson, given, and_self, if_true, registered, whole]
                    exact .faulty carried isKnown (Schema.issuesIn_event given issues whole)
                | outOfCalendar =>
                    simp only [decode, isJson, ofJson, given, and_self, if_true, registered, whole]
                    exact .outside carried isKnown
          · simp only [decode, isJson, ofJson, given, if_neg same]
            exact .foreign carried (.inl fun alike => same (Prod.mk.inj alike))

/-- A mismatch is raised exactly for a header that is not the wanted one or that no type is
registered under, and it tells that header. -/
theorem raises_shapeMismatch_iff
    {givenName : Option String}
    {givenVersion : Option Int} :
    Raises body name version (.service (.shapeMismatch givenName givenVersion)) ↔
      ∃ told number, givenName = some told ∧ givenVersion = some number
        ∧ Carries body told number ∧ Mismatches name version told number := by
  constructor
  · rintro ⟨error, ending, same⟩
    have decision := decision_decode body name version
    rw [ending] at decision
    cases decision with
    | foreign carried mismatch =>
        cases same
        exact ⟨_, _, rfl, rfl, carried, mismatch⟩
    | headless bare => cases same
    | faulty carried registered elsewhere => cases same
    | outside carried registered => cases same
  · rintro ⟨told, number, rfl, rfl, carried, mismatch⟩
    have refuted (wanted : Carries body name version)
        (registered : EventType.registered? name version ≠ none) : False :=
      mismatch.elim (fun other => other (carried.unique wanted)) registered
    have decision := decision_decode body name version
    generalize ending : decode body name version = result at decision
    cases decision with
    | headless bare => exact absurd carried (bare _ _)
    | foreign found other =>
        obtain ⟨rfl, rfl⟩ := Prod.mk.inj (carried.unique found)
        exact ⟨_, ending, rfl⟩
    | faulty wanted registered elsewhere => exact (refuted wanted registered).elim
    | outside wanted registered => exact (refuted wanted registered).elim
    | read wanted registered isJson accepted =>
        exact (refuted wanted (by simp [registered])).elim

/-- The messages of the two passes differ in their first letter. -/
theorem message_malformed_ne_invalid
    (issues others : List Schema.Issue)
    (name : String)
    (version : Int) :
    (DecodeError.malformed issues).toFailure.message
      ≠ (DecodeError.invalid name version others).toFailure.message := by
  intro same
  have letters := congrArg (fun text => text.toList.head?) same
  simp [DecodeError.toFailure, Failure.message, ServiceError.message, ServiceError.statement,
    ServiceError.part, toString] at letters

/-- A body is malformed exactly if it carries no header. -/
theorem raises_malformed_iff :
    (∃ issues, Raises body name version (DecodeError.malformed issues).toFailure) ↔
      ∀ givenName givenVersion, ¬Carries body givenName givenVersion := by
  have decision := decision_decode body name version
  generalize ending : decode body name version = result at decision
  constructor
  · rintro ⟨issues, error, isEnding, same⟩
    rw [ending] at isEnding
    subst isEnding
    cases decision with
    | headless bare => exact bare
    | foreign carried mismatch => cases same
    | faulty carried registered elsewhere =>
        exact absurd (congrArg Failure.message same.symm) (message_malformed_ne_invalid _ _ _ _)
    | outside carried registered => cases same
  · intro bare
    cases decision with
    | headless _ => exact ⟨_, _, ending, rfl⟩
    | foreign carried mismatch => exact absurd carried (bare _ _)
    | faulty carried registered elsewhere => exact absurd carried (bare _ _)
    | outside carried registered => exact absurd carried (bare _ _)
    | read carried registered isJson accepted => exact absurd carried (bare _ _)

/-- What an event that is read from a body has to be. -/
structure IsRead
    (body : Option Bytes)
    (name : String)
    (version : Int)
    (event : Event) : Prop where
  wanted : event.name = name ∧ event.version = version
  carried : Carries body name version
  registered : EventType.registered? name version = some event.type
  unnumbered : event.sequence? = none ↔ ∀ told, Tells body "sequence" told → told = .null
  numbered : ∀ number, event.sequence? = some number →
    number.toNat ≤ 2 ^ 64 - 1
      ∧ ∃ told, Tells body "sequence" told ∧ Schema.Spells told number.toNat
  inUtc : event.occurredAt.toDateTime.offset = some .utc
  occurred : ∃ told datetime, Tells body "occurredAt" told ∧ Schema.datetime told = .ok datetime
    ∧ event.occurredAt.toDateTime.instant = datetime.instant

theorem isRead_of_decode
    {event : Event}
    (decoded : decode body name version = .ok event) : IsRead body name version event := by
  have decision := decision_decode body name version
  rw [decoded] at decision
  cases decision with
  | @read _ members carried registered isJson accepted =>
      have tells (name : String) (told : Json) :
          Tells body name told ↔ Json.lookup? name members = some told := by
        simp [Tells, isJson, ← Json.lookup?_eq_some_iff]
      obtain ⟨numbered, dated⟩ := members_of_event accepted
      refine ⟨?_, carried, registered, ?_, fun number isNumber =>
        ⟨Nat.le_sub_one_of_lt number.toNat_lt, ?_⟩, rfl, ?_⟩
      · obtain ⟨typed, named, rfl⟩ := isTyped_of_decode decoded
        exact ⟨typed.1.trans named, typed.2⟩
      · rcases Schema.optionalField_eq_ok_iff.mp numbered with
          ⟨absent, isNone⟩ | ⟨told, found, present, number, -, isSome⟩
        · exact iff_of_true isNone fun told isTold => absent told ((tells _ _).mp isTold)
        · refine iff_of_false (by simp [isSome]) fun absent => ?_
          exact present (absent told ((tells _ _).mpr found))
      · rcases Schema.optionalField_eq_ok_iff.mp numbered with
          ⟨-, isNone⟩ | ⟨told, found, -, other, isOther, isSome⟩
        · rw [isNumber] at isNone
          cases isNone
        · rw [isNumber] at isSome
          cases isSome
          exact ⟨told, (tells _ _).mpr found, Schema.spells_of_unsigned isOther⟩
      · obtain ⟨told, found, isMoment⟩ := Schema.field_eq_ok_iff.mp dated
        obtain ⟨datetime, given, same⟩ := Schema.instant_of_moment isMoment
        exact ⟨told, datetime, (tells _ _).mpr found, given, same⟩

/-- The header that a body carries decides the shape of the body, and the second pass agrees with
the first one about it. -/
structure HeaderDecides
    (body : Option Bytes)
    (name : String)
    (version : Int) : Prop where
  /-- A mismatch is raised for a carried header that is not the wanted, registered one. -/
  mismatch : ∀ givenName givenVersion,
    Raises body name version (.service (.shapeMismatch givenName givenVersion)) ↔
      ∃ told number, givenName = some told ∧ givenVersion = some number
        ∧ Carries body told number ∧ Mismatches name version told number
  /-- Nothing else in the body counts. -/
  alike : ∀ other, SharesHeader body other → ∀ givenName givenVersion,
    Raises body name version (.service (.shapeMismatch givenName givenVersion)) ↔
      Raises other name version (.service (.shapeMismatch givenName givenVersion))
  /-- Without a header that can be read the body is malformed. -/
  malformed :
    (∀ givenName givenVersion, ¬Carries body givenName givenVersion) ↔
      ∃ issues : List Schema.Issue, Raises body name version
        (.service (.undecodable s!"Malformed envelope: {issues.length} validation error(s)"
          (Failure.issueDetails issues)))
  /-- The second pass is about the wanted header and finds nothing wrong with it. -/
  agree : ∀ givenName givenVersion issues,
    decode body name version = .error (.invalid givenName givenVersion issues) →
      (givenName, givenVersion) = (name, version) ∧ Carries body name version
        ∧ EventType.registered? name version ≠ none
        ∧ ∀ issue ∈ issues, issue.path.head? ∉ [some "eventName", some "eventVersion"]
  /-- What is read has the wanted header. -/
  read : ∀ event, decode body name version = .ok event → IsRead body name version event

/-- The header alone decides the shape of every body, whatever event is wanted. -/
theorem headerDecides
    (body : Option Bytes)
    (name : String)
    (version : Int) : HeaderDecides body name version where
  mismatch _ _ := raises_shapeMismatch_iff
  alike _ shared _ _ := by simp only [raises_shapeMismatch_iff, shared.carries_iff]
  malformed := raises_malformed_iff.symm
  agree givenName givenVersion issues ending := by
    have decision := decision_decode body name version
    rw [ending] at decision
    cases decision with
    | faulty carried registered elsewhere =>
        refine ⟨rfl, carried, registered, fun issue member => ?_⟩
        obtain ⟨other, listed, first⟩ := elsewhere issue member
        rw [first]
        exact Schema.not_header_of_mem_otherNames other listed
  read _ decoded := isRead_of_decode decoded

end Headers

end Event

end Fulfilment
