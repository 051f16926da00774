import Fulfilment.Proofs.Event.Escape

/-!
# The two passes over a body

The first pass over a body reads the name and the version: the last members of these names, a text
and a value that stands for a whole number in one of the lax spellings.  The second pass reads them
once more among the other members, and finds fault only with members that the first one passes
over.
-/

namespace Fulfilment

namespace Json

/-- A member behind which no other one has its name. -/
def IsLast
    (name : String)
    (value : Json)
    (members : List (String × Json)) : Prop :=
  ∃ earlier later, members = earlier ++ (name, value) :: later
    ∧ ∀ member ∈ later, member.1 ≠ name

/-- The look-up finds the last member of a name. -/
theorem lookup?_eq_some_iff
    {name : String}
    {value : Json}
    {members : List (String × Json)} :
    lookup? name members = some value ↔ IsLast name value members := by
  rw [lookup?, Option.map_eq_some_iff]
  constructor
  · rintro ⟨⟨found, _⟩, isFound, rfl⟩
    obtain ⟨same, before, behind, split, others⟩ := List.find?_eq_some_iff_append.mp isFound
    obtain rfl : found = name := by simpa using same
    refine ⟨behind.reverse, before.reverse, ?_, fun member inside => ?_⟩
    · simpa using congrArg List.reverse split
    · simpa using others member (List.mem_reverse.mp inside)
  · rintro ⟨earlier, later, rfl, others⟩
    refine ⟨(name, value), List.find?_eq_some_iff_append.mpr ?_, rfl⟩
    refine ⟨by simp, later.reverse, earlier.reverse, by simp, fun member inside => ?_⟩
    simpa using others member (List.mem_reverse.mp inside)

end Json

namespace Schema

/-! ## Whole numbers -/

/-- A JSON value stands for a whole number. -/
inductive Spells : Json → Int → Prop where
  | integer (number : Int) : Spells (.integer number) number
  | truth : Spells (.bool true) 1
  | falsehood : Spells (.bool false) 0
  /-- A number with a fraction or an exponent that is whole and has at most 64 bits. -/
  | real {double : Number.Double} {number : Int} {denominator : Nat}
      (exact : double.ratio? = some (number * denominator, denominator))
      (small : number.natAbs < signedLimit) : Spells (.scalar (.real double)) number
  | text {text : String} {number : Int}
      (spelled : Number.ofLaxText text = .ok number) : Spells (.string text) number

theorem denominator_pos
    {double : Number.Double}
    {numerator : Int}
    {denominator : Nat}
    (finite : double.ratio? = some (numerator, denominator)) : 0 < denominator := by
  cases double with
  | finite negative mantissa exponent =>
      cases exponent with
      | ofNat power =>
          cases finite
          exact Nat.one_pos
      | negSucc power =>
          cases finite
          exact Nat.pow_pos (by decide)
  | infinite negative => cases finite
  | nan => cases finite

theorem integerOfDouble_eq_ok_iff
    {double : Number.Double}
    {number : Int} :
    integerOfDouble double = .ok number ↔ Spells (.scalar (.real double)) number := by
  constructor
  · intro read
    unfold integerOfDouble at read
    split at read
    · cases read
    · next numerator denominator finite =>
        split at read
        · cases read
        · next whole =>
            have exact := Int.ediv_mul_cancel (Int.dvd_of_emod_eq_zero (Decidable.not_not.mp whole))
            dsimp only at read
            split at read
            · cases read
            · next small =>
                cases read
                refine @Spells.real _ _ denominator ?_ (Nat.not_le.mp small)
                rw [exact]
                exact finite
  · rintro (_ | _ | _ | @⟨_, _, denominator, exact, small⟩ | _)
    have positive := denominator_pos exact
    have nonzero : (denominator : Int) ≠ 0 := by omega
    simp [integerOfDouble, exact, Int.mul_ediv_cancel _ nonzero, Nat.not_le.mpr small]

/-- The lax reading of whole numbers takes exactly the values that stand for one. -/
theorem integer_eq_ok_iff
    {value : Json}
    {number : Int} : integer value = .ok number ↔ Spells value number := by
  constructor
  · intro read
    unfold integer at read
    split at read
    · cases read
      exact .integer _
    · next truth =>
        cases truth
        · cases read
          exact .falsehood
        · cases read
          exact .truth
    · exact integerOfDouble_eq_ok_iff.mp read
    · next text =>
        unfold integerOfText at read
        split at read
        · next spelled =>
            cases read
            exact .text spelled
        · cases read
        · cases read
    all_goals cases read
  · intro spells
    cases spells with
    | integer number => rfl
    | truth => rfl
    | falsehood => rfl
    | real exact small => exact integerOfDouble_eq_ok_iff.mpr (.real exact small)
    | text spelled =>
        change integerOfText _ = _
        rw [integerOfText, spelled]

/-- A lax text, a real number and a truth value stand for one. -/
example :
    Spells (.string "1") 1 ∧ Spells (.scalar (.real (.finite false 1 0))) 1
      ∧ Spells (.bool true) 1 :=
  ⟨.text rfl, .real rfl (by decide), .truth⟩

/-! ## The first pass -/

theorem string_eq_ok_iff
    {value : Json}
    {text : String} : string value = .ok text ↔ value = .string text := by
  constructor
  · intro read
    unfold string at read
    split at read
    · cases read
      rfl
    · cases read
  · rintro rfl
    rfl

theorem header_eq_ok_iff
    {value : Json}
    {name : String}
    {version : Int} :
    header value = .ok (name, version) ↔
      ∃ members told, value = .object members
        ∧ Json.IsLast "eventName" (.string name) members
        ∧ Json.IsLast "eventVersion" told members
        ∧ Spells told version := by
  cases value with
  | scalar content => simp [header, object, Reading.issue]
  | array items => simp [header, object, Reading.issue]
  | object members =>
      simp only [header, object, Reading.seq_eq_ok_iff, Reading.map_eq_ok_iff, field_eq_ok_iff,
        string_eq_ok_iff, integer_eq_ok_iff, Json.lookup?_eq_some_iff, Json.object.injEq]
      constructor
      · rintro ⟨_, _, ⟨_, ⟨_, named, rfl⟩, rfl⟩, ⟨told, numbered, spells⟩, same⟩
        cases same
        exact ⟨members, told, rfl, named, numbered, spells⟩
      · rintro ⟨_, told, rfl, named, numbered, spells⟩
        exact ⟨_, version, ⟨name, ⟨_, named, rfl⟩, rfl⟩, ⟨told, numbered, spells⟩, rfl⟩

/-! ## The second pass -/

namespace Reading

/-- Every issue of a reading lies in a member of one of some names. -/
def IssuesIn
    (names : List String)
    (reading : Reading α) : Prop :=
  ∀ issues, reading = .invalid issues →
    ∀ issue ∈ issues, ∃ name ∈ names, issue.path.head? = some name

variable {names : List String}

theorem issuesIn_ok (value : α) : (ok value : Reading α).IssuesIn names := by
  simp [IssuesIn]

theorem issuesIn_under
    {name : String}
    (listed : name ∈ names)
    (reading : Reading α) : (reading.under name).IssuesIn names := by
  intro issues read issue member
  cases reading with
  | ok value => cases read
  | outOfCalendar => cases read
  | invalid others =>
      cases read
      obtain ⟨other, -, rfl⟩ := List.mem_map.mp member
      exact ⟨name, listed, rfl⟩

theorem IssuesIn.map
    {reading : Reading α}
    (inside : reading.IssuesIn names)
    (change : α → β) : (change <$> reading).IssuesIn names := by
  intro issues read
  cases reading with
  | ok value => cases read
  | outOfCalendar => cases read
  | invalid others =>
      cases read
      exact inside issues rfl

theorem IssuesIn.seq
    {first : Reading (α → β)}
    {second : Reading α}
    (former : first.IssuesIn names)
    (latter : second.IssuesIn names) : (first <*> second).IssuesIn names := by
  intro issues read issue member
  cases first with
  | ok change =>
      cases second with
      | ok value => cases read
      | outOfCalendar => cases read
      | invalid others =>
          cases read
          exact latter issues rfl issue member
  | outOfCalendar => cases second <;> cases read
  | invalid others =>
      cases second with
      | ok value =>
          cases read
          exact former issues rfl issue member
      | outOfCalendar => cases read
      | invalid more =>
          cases read
          rcases List.mem_append.mp member with member | member
          · exact former others rfl issue member
          · exact latter more rfl issue member

end Reading

section Members

variable {names : List String} {name otherName : String} {members : Members}

theorem issuesIn_field
    (listed : name ∈ names)
    (read : Json → Reading α) : (field name read members).IssuesIn names := by
  unfold field
  split
  · exact Reading.issuesIn_under listed _
  · exact Reading.issuesIn_under listed _

theorem issuesIn_fieldOr
    (listed : name ∈ names)
    (default : α)
    (read : Json → Reading α) : (fieldOr name default read members).IssuesIn names := by
  unfold fieldOr
  split
  · exact Reading.issuesIn_under listed _
  · exact Reading.issuesIn_ok _

theorem issuesIn_fieldOrUnder
    (listed : name ∈ names)
    (otherListed : otherName ∈ names)
    (read : Json → Reading α) : (fieldOrUnder name otherName read members).IssuesIn names := by
  unfold fieldOrUnder
  split
  · exact Reading.issuesIn_under listed _
  · exact Reading.issuesIn_under otherListed _
  · exact Reading.issuesIn_under listed _

end Members

/-- The names of the members that the first pass passes over. -/
def otherNames : List String :=
  ["eventId", "correlationId", "causationId", "producer", "partitionKey", "sequence", "occurredAt",
    "schema", "schemaRef", "payload"]

theorem not_header_of_mem_otherNames :
    ∀ name ∈ otherNames, some name ∉ [some "eventName", some "eventVersion"] := by decide

/-- The second pass finds nothing wrong with a name and a positive version that the first pass has
read. -/
theorem issuesIn_envelope
    {readPayload : Json → Reading Payload}
    {value : Json}
    {name : String}
    {version : Int}
    (given : header value = .ok (name, version))
    (positive : 0 < version) : (envelope readPayload value).IssuesIn otherNames := by
  obtain ⟨members, told, rfl, named, numbered, spells⟩ := header_eq_ok_iff.mp given
  have first : field "eventName" string members = .ok name :=
    field_of_lookup? (Json.lookup?_eq_some_iff.mpr named) rfl
  have second : field "eventVersion" positiveInteger members = .ok version :=
    field_of_lookup? (Json.lookup?_eq_some_iff.mpr numbered) (by
      rw [positiveInteger, integer_eq_ok_iff.mpr spells, Reading.andThen, if_pos positive])
  simp only [envelope, object, first, second, Reading.map_ok, Reading.seq_ok]
  -- Of the eleven fields nine are left.
  refine .seq (.seq (.seq (.seq (.seq (.seq (.seq (.seq (.seq (Reading.issuesIn_ok _) ?_) ?_) ?_)
    ?_) ?_) ?_) ?_) ?_) ?_
  all_goals
    first
    | exact issuesIn_field (by decide) _
    | exact issuesIn_fieldOrUnder (by decide) (by decide) _
    | exact issuesIn_fieldOr (by decide) _ _

/-- The second pass finds nothing wrong with the header of a type. -/
theorem issuesIn_event
    {type : EventType}
    {value : Json}
    (given : header value = .ok (type.name, EventType.version)) :
    (event type value).IssuesIn otherNames := by
  cases type with
  | orderCompleted => exact (issuesIn_envelope given (by decide)).map Event.orderCompleted
  | shippingCreated => exact (issuesIn_envelope given (by decide)).map Event.shippingCreated

/-! ## What is read -/

theorem nullable_eq_ok_iff
    {read : Json → Reading α}
    {value : Json}
    {result : Option α} :
    nullable read value = .ok result ↔
      value = .null ∧ result = none
        ∨ value ≠ .null ∧ ∃ found, read value = .ok found ∧ result = some found := by
  unfold nullable
  split
  · simp [Json.null, eq_comm]
  · next whole =>
      have present : value ≠ .null := whole
      change some <$> read value = .ok result ↔ _
      simp only [Reading.map_eq_ok_iff, present, false_and, not_false_eq_true, ne_eq, true_and,
        false_or, eq_comm]

theorem optionalField_eq_ok_iff
    {name : String}
    {read : Json → Reading α}
    {members : Members}
    {result : Option α} :
    optionalField name read members = .ok result ↔
      (∀ told, Json.lookup? name members = some told → told = .null) ∧ result = none
        ∨ ∃ told, Json.lookup? name members = some told ∧ told ≠ .null
          ∧ ∃ found, read told = .ok found ∧ result = some found := by
  unfold optionalField fieldOr
  cases Json.lookup? name members with
  | none => simp [eq_comm]
  | some told => simp [Reading.under_eq_ok_iff, nullable_eq_ok_iff]

theorem spells_of_unsigned
    {value : Json}
    {number : UInt64}
    (read : unsigned value = .ok number) : Spells value number.toNat := by
  unfold unsigned at read
  cases whole : integer value with
  | invalid issues =>
      rw [whole] at read
      cases read
  | outOfCalendar =>
      rw [whole] at read
      cases read
  | ok exact =>
      rw [whole, Reading.andThen, word] at read
      split at read
      · cases read
      · split at read
        · cases read
        · next notNegative notLarge =>
            cases read
            have same : ((UInt64.ofNat exact.toNat).toNat : Int) = exact := by
              rw [UInt64.toNat_ofNat_of_lt' (by omega)]
              omega
            rw [same]
            exact integer_eq_ok_iff.mp whole

/-- A value is read as a moment exactly if it is a datetime that UTC tells so. -/
theorem moment_eq_ok_iff
    {value : Json}
    {read : Moment} :
    moment value = .ok read ↔ ∃ given, datetime value = .ok given ∧ given.moment? = some read := by
  unfold moment
  cases datetime value with
  | invalid issues => simp [Reading.andThen]
  | outOfCalendar => simp [Reading.andThen]
  | ok given => cases told : given.moment? <;> simp [Reading.andThen, told]

theorem instant_of_moment
    {value : Json}
    {read : Moment}
    (told : moment value = .ok read) :
    ∃ given, datetime value = .ok given ∧ read.toDateTime.instant = given.instant := by
  obtain ⟨given, isGiven, isMoment⟩ := moment_eq_ok_iff.mp told
  exact ⟨given, isGiven, DateTime.instant_of_moment? isMoment⟩

/-- The number and the moment of an envelope that was read stand in its members. -/
theorem members_of_envelope
    {readPayload : Json → Reading Payload}
    {members : Members}
    {read : Envelope Payload}
    (accepted : envelope readPayload (.object members) = .ok read) :
    optionalField "sequence" unsigned members = .ok read.sequence
      ∧ field "occurredAt" moment members = .ok read.occurredAt := by
  simp only [envelope, object, Reading.seq_eq_ok_iff] at accepted
  -- The moment is behind two of the eleven fields, and the number is before it.
  obtain ⟨_, _, ⟨_, _, ⟨_, occurred, ⟨_, number, before, numbered, rfl⟩, dated, rfl⟩, -, rfl⟩, -,
    same⟩ := accepted
  simp only [Reading.map_eq_ok_iff] at before
  obtain ⟨_, _, ⟨_, _, ⟨_, _, ⟨_, _, ⟨_, _, ⟨_, _, ⟨_, -, rfl⟩, -, rfl⟩, -, rfl⟩, -, rfl⟩, -, rfl⟩,
    -, rfl⟩, -, rfl⟩ := before
  cases same
  exact ⟨numbered, dated⟩

end Schema

end Fulfilment
