import Fulfilment.Proofs.Broker.Announcement
import Fulfilment.Proofs.Workflow.Plan

/-!
# What a plan says

A plan is a duplicate exactly when the event is known, and a mere ledger entry exactly when the
order has a shipment otherwise.  A plan to create a shipment says in full what will be stored and
what will be sent.
-/

namespace Fulfilment

/-- A word that was checked is the number that was given. -/
theorem Schema.word_eq_ok
    {number : Int}
    {value : UInt64}
    (read : word number = .ok value) : (value.toNat : Int) = number := by
  unfold word at read
  split at read
  · cases read
  · split at read
    · cases read
    · cases read
      have small : number.toNat < UInt64.size := by omega
      rw [UInt64.toNat_ofNat_of_lt' small]
      omega

namespace Workflow

/-- Checked parts of an outbound envelope are the parts that were given. -/
theorem outboundParts_eq_ok
    {producer : Option String}
    {sequence : Int}
    {parts : String × UInt64}
    (read : outboundParts producer sequence = .ok parts) :
    producer = some parts.1 ∧ (parts.2.toNat : Int) = sequence := by
  have read : Schema.Reading.both
      (((Schema.Reading.ofOption .stringType producer).under "producer").map Prod.mk)
      ((Schema.word sequence).under "sequence") = .ok parts := read
  obtain ⟨make, number, made, numbered, rfl⟩ := Schema.Reading.both_eq_ok_iff.mp read
  cases producer with
  | none => cases made
  | some name =>
      cases made
      cases word : Schema.word sequence with
      | ok value =>
          rw [word] at numbered
          cases numbered
          exact ⟨rfl, Schema.word_eq_ok word⟩
      | invalid issues =>
          rw [word] at numbered
          cases numbered
      | outOfCalendar =>
          rw [word] at numbered
          cases numbered

namespace Task

/-- A row that is complete has the parts that the task gives. -/
theorem eq_of_shipment_eq_ok
    {task : Task}
    {shipment : Shipment}
    (complete : task.shipment = .ok shipment) :
    shipment.shippingId = task.shippingId
      ∧ shipment.orderId = task.envelope.payload.orderId
      ∧ shipment.userId = task.envelope.payload.userId
      ∧ shipment.address = warehouse
      ∧ task.settings.shippingMethod = some shipment.shippingMethod
      ∧ task.settings.carrier = some shipment.carrier
      ∧ shipment.createdAt = task.clock.wall := by
  simp only [Task.shipment, Tables.completeShipment, draft, Tables.given] at complete
  cases method : task.settings.shippingMethod with
  | none =>
      rw [method] at complete
      cases complete
  | some text =>
      cases carrier : task.settings.carrier with
      | none =>
          rw [method, carrier] at complete
          cases complete
      | some name =>
          rw [method, carrier] at complete
          cases complete
          exact ⟨rfl, rfl, rfl, rfl, rfl, rfl, rfl⟩

/-- A row that is stored is complete and accepted. -/
theorem eq_of_place_eq_ok
    {task : Task}
    {tables next : Tables}
    {shipment : Shipment}
    (placed : task.place tables = .ok (shipment, next)) :
    task.shipment = .ok shipment ∧ tables.insertShipment shipment = .ok next := by
  obtain ⟨row, complete, placed⟩ := bind_eq_ok placed
  obtain ⟨shipped, inserted, placed⟩ := bind_eq_ok placed
  cases placed
  exact ⟨complete, inserted⟩

/-- An event that is not known is entered. -/
theorem enter_of_not_isKnown
    {task : Task}
    {tables : Tables}
    (unknown : ¬ task.IsKnown tables) :
    task.enter tables = .ok (tables.withEntry task.ledgerRow?) := by
  cases identified : task.envelope.eventId with
  | none => simp [enter, ledgerRow?, identified]
  | some eventId =>
      simp only [enter, ledgerRow?, identified, Option.map_some]
      refine Tables.insertEntry_eq_ok_iff.mpr ⟨fun known => unknown ?_, rfl⟩
      exact ⟨eventId, identified, known⟩

/-- A checked event is one with the parts that the task gives. -/
theorem eq_of_outbound_eq_ok
    {task : Task}
    {shipment : Shipment}
    {sequence : Int}
    {event : Envelope ShippingCreated}
    (sound : checked (task.outbound shipment sequence) = .ok event) :
    ∃ producer number,
      task.settings.serviceName = some producer
        ∧ (number.toNat : Int) = sequence
        ∧ event = shippingCreated task.envelope shipment producer task.eventId number := by
  rw [outbound, checked_map] at sound
  cases parts : outboundParts task.settings.serviceName sequence with
  | ok pair =>
      obtain ⟨named, numbered⟩ := outboundParts_eq_ok parts
      rw [parts] at sound
      cases sound
      exact ⟨pair.1, pair.2, named, numbered, rfl⟩
  | invalid issues =>
      rw [parts] at sound
      cases sound
  | outOfCalendar =>
      rw [parts] at sound
      cases sound

/-- What a task creates, and which tables let it. -/
structure Creates
    (task : Task)
    (tables : Tables)
    (shipment : Shipment)
    (sequence : Int)
    (event : Envelope ShippingCreated)
    (next : Tables) : Prop where
  unshipped : ¬ tables.HasShipment task.envelope.payload.orderId
  unused : ¬ tables.Uses task.shippingId
  complete : task.shipment = .ok shipment
  due : sequence = tables.due task.envelope.resolvedKey
  fits : sequence < Tables.greatestCounter
  sound : checked (task.outbound shipment sequence) = .ok event
  next : next =
    ((tables.withShipment shipment).withTaken task.envelope.resolvedKey sequence).withEntry
      task.ledgerRow?

/-- A number that is told to others is not negative. -/
theorem Creates.nonnegative
    {task : Task}
    {tables next : Tables}
    {shipment : Shipment}
    {sequence : Int}
    {event : Envelope ShippingCreated}
    (creates : task.Creates tables shipment sequence event next) : 0 ≤ sequence := by
  obtain ⟨producer, number, -, told, -⟩ := eq_of_outbound_eq_ok creates.sound
  omega

/-- A key that gives a number had one to give. -/
theorem Creates.possible
    {task : Task}
    {tables next : Tables}
    {shipment : Shipment}
    {sequence : Int}
    {event : Envelope ShippingCreated}
    (creates : task.Creates tables shipment sequence event next) :
    0 ≤ tables.due task.envelope.resolvedKey
      ∧ tables.due task.envelope.resolvedKey < Tables.greatestCounter := by
  rw [← creates.due]
  exact ⟨creates.nonnegative, creates.fits⟩

/-- The plan is a duplicate if the event is known. -/
theorem plan_of_isKnown
    {task : Task}
    {tables : Tables}
    (known : task.IsKnown tables) : task.plan tables = .ok .duplicate := by
  simp only [plan, known, if_true]
  rfl

/-- The plan is a ledger entry if the event is new and the order has a shipment. -/
theorem plan_of_shipment
    {task : Task}
    {tables : Tables}
    {shipment : Shipment}
    (unknown : ¬ task.IsKnown tables)
    (found : tables.shipmentOfOrder? task.envelope.payload.orderId = some shipment) :
    task.plan tables = .ok (.fulfilled shipment (tables.withEntry task.ledgerRow?)) := by
  simp only [plan, unknown, if_false, found, enter_of_not_isKnown unknown, stored_ok, ok_bind]
  rfl

/-- The plan is that of a creation if the event is new and the order has no shipment. -/
theorem plan_of_no_shipment
    {task : Task}
    {tables : Tables}
    (unknown : ¬ task.IsKnown tables)
    (missing : tables.shipmentOfOrder? task.envelope.payload.orderId = none) :
    task.plan tables = task.creation tables := by
  simp only [plan, unknown, if_false, missing]

/-- What a sound event tells. -/
structure Tells
    (task : Task)
    (shipment : Shipment)
    (sequence : Int)
    (event : Envelope ShippingCreated) : Prop where
  aboutShipment : event.payload.shippingId = shipment.shippingId
  aboutOrder : event.payload.orderId = shipment.orderId
  partitionKey : event.partitionKey = task.envelope.resolvedKey
  causation : event.causationId = task.envelope.eventId
  number : event.number? = some sequence
  announced : Message.announcement? { task.message event with acknowledged := true } = some event

/-- A sound event tells the shipment, its number and what it was caused by. -/
theorem tells_of_outbound
    {task : Task}
    {shipment : Shipment}
    {sequence : Int}
    {event : Envelope ShippingCreated}
    (sound : checked (task.outbound shipment sequence) = .ok event) :
    task.Tells shipment sequence event := by
  obtain ⟨producer, number, -, told, rfl⟩ := eq_of_outbound_eq_ok sound
  refine ⟨rfl, rfl, rfl, rfl, ?_, Message.announcement?_encode ⟨rfl, rfl⟩ rfl rfl⟩
  simp only [Envelope.number?, shippingCreated, Option.map_some, told]

/-- A plan to create a shipment is one that the tables let the task carry out. -/
theorem creates_of_creation
    {task : Task}
    {tables next : Tables}
    {shipment : Shipment}
    {sequence : Int}
    {event : Envelope ShippingCreated}
    (unknown : ¬ task.IsKnown tables)
    (planned : task.creation tables = .ok (.created shipment sequence event next)) :
    task.Creates tables shipment sequence event next := by
  obtain ⟨⟨row, shipped⟩, placed, planned⟩ := bind_eq_ok planned
  obtain ⟨⟨number, counted⟩, taken, planned⟩ := bind_eq_ok planned
  obtain ⟨created, sound, planned⟩ := bind_eq_ok planned
  obtain ⟨entered, entry, planned⟩ := bind_eq_ok planned
  cases planned
  obtain ⟨complete, inserted⟩ := eq_of_place_eq_ok (stored_eq_ok placed)
  obtain ⟨unused, unshipped, rfl⟩ := Tables.insertShipment_eq_ok_iff.mp inserted
  obtain ⟨due, fits, rfl⟩ := Tables.allocate_eq_ok_iff.mp (stored_eq_ok taken)
  obtain ⟨identifier, order, -⟩ := eq_of_shipment_eq_ok complete
  rw [identifier] at unused
  rw [order] at unshipped
  have unknown :
      ¬ task.IsKnown ((tables.withShipment shipment).withTaken task.envelope.resolvedKey
        sequence) :=
    unknown
  have entered := stored_eq_ok entry
  rw [enter_of_not_isKnown unknown] at entered
  cases entered
  exact ⟨unshipped, unused, complete, due, fits, sound, rfl⟩

/-- The plan of a creation is to create a shipment. -/
theorem created_of_creation
    {task : Task}
    {tables : Tables}
    {plan : Plan}
    (planned : task.creation tables = .ok plan) :
    ∃ shipment sequence event next, plan = .created shipment sequence event next := by
  obtain ⟨⟨shipment, shipped⟩, placed, planned⟩ := bind_eq_ok planned
  obtain ⟨⟨sequence, counted⟩, taken, planned⟩ := bind_eq_ok planned
  obtain ⟨event, sound, planned⟩ := bind_eq_ok planned
  obtain ⟨next, entered, planned⟩ := bind_eq_ok planned
  cases planned
  exact ⟨shipment, sequence, event, next, rfl⟩

/-- There is a plan unless the event is new and the order has no shipment. -/
theorem new_of_plan_eq_error
    {task : Task}
    {tables : Tables}
    {failure : Failure}
    (planned : task.plan tables = .error failure) :
    ¬ task.IsKnown tables ∧ ¬ tables.HasShipment task.envelope.payload.orderId := by
  by_cases known : task.IsKnown tables
  · rw [plan_of_isKnown known] at planned
    cases planned
  · refine ⟨known, Tables.shipmentOfOrder?_eq_none_iff.mp ?_⟩
    cases found : tables.shipmentOfOrder? task.envelope.payload.orderId with
    | none => rfl
    | some shipment =>
        rw [plan_of_shipment known found] at planned
        cases planned

/-- What a plan tells about the tables that it was made for. -/
def Justified
    (task : Task)
    (tables : Tables)
    (plan : Plan) : Prop :=
  match plan with
  | .duplicate => task.IsKnown tables
  | .fulfilled shipment next =>
      ¬ task.IsKnown tables
        ∧ tables.shipmentOfOrder? task.envelope.payload.orderId = some shipment
        ∧ next = tables.withEntry task.ledgerRow?
  | .created shipment sequence event next =>
      ¬ task.IsKnown tables ∧ task.Creates tables shipment sequence event next

/-- Every plan is justified by the tables. -/
theorem justified_of_plan
    {task : Task}
    {tables : Tables}
    {plan : Plan}
    (planned : task.plan tables = .ok plan) : task.Justified tables plan := by
  by_cases known : task.IsKnown tables
  · rw [plan_of_isKnown known] at planned
    cases planned
    exact known
  · cases found : tables.shipmentOfOrder? task.envelope.payload.orderId with
    | some shipment =>
        rw [plan_of_shipment known found] at planned
        cases planned
        exact ⟨known, found, rfl⟩
    | none =>
        rw [plan_of_no_shipment known found] at planned
        obtain ⟨shipment, sequence, event, next, rfl⟩ := created_of_creation planned
        exact ⟨known, creates_of_creation known planned⟩

end Task
end Workflow
end Fulfilment
