import Fulfilment.Proofs.Contention.Retries
import Fulfilment.Proofs.Workflow.Atomicity
import Fulfilment.Proofs.Workflow.Log

/-!
# Attempts that nobody interferes with

A service that meets a conflict although nobody else commits anything meets it again from the same
tables: what an attempt uses up for good are identifiers, faults of the broker and messages.  The
attempts at an order are an endless sequence that does not know of the number of retries.  Handling
the order makes the first of them up to one that meets no conflict, or as many as it may.
-/

namespace Fulfilment
namespace Workflow

open Fulfilment.Action Fulfilment.Change Fulfilment.Service

namespace Round

/-- The attempt that a service makes when nobody interferes. -/
def alone
    (envelope : Envelope OrderCompleted)
    (service : Service) : Round :=
  let (ending, after) := (unitOfWork envelope).perform service
  ⟨service, ending, after⟩

/-- The messages that an attempt sends. -/
def sent (round : Round) : List Message :=
  round.after.broker.sent.drop round.before.broker.sent.length

end Round

/-- The service that has made so many attempts and has told of each that it met a conflict. -/
def serviceAt
    (envelope : Envelope OrderCompleted)
    (start : Service) : Nat → Service
  | 0 => start
  | index + 1 =>
      (Round.alone envelope (serviceAt envelope start index)).retrying envelope (index + 1)

/-- The attempt that comes after so many others. -/
def attemptAt
    (envelope : Envelope OrderCompleted)
    (start : Service)
    (index : Nat) : Round :=
  .alone envelope (serviceAt envelope start index)

/-- The messages of the first attempts. -/
def sentBefore
    (envelope : Envelope OrderCompleted)
    (start : Service)
    (count : Nat) : List Message :=
  (List.range count).flatMap fun index => (attemptAt envelope start index).sent

/-- The line that warns of a conflict. -/
def conflictLine
    (envelope : Envelope OrderCompleted)
    (number : Nat) : LogLine :=
  let identifier := Publish.identifierText envelope.eventId
  ⟨.workflow, .warning,
    s!"Conflict while processing event {identifier} for order "
      ++ s!"{envelope.payload.orderId.text}, retrying (attempt {number} failed)"⟩

variable
  {envelope : Envelope OrderCompleted}
  {service start : Service}
  {tables : Tables}

/-- Without interference a conflict is followed by the other attempts, and any other attempt is the
last. -/
theorem perform_attempts_succ (retries number : Nat) :
    (attempts envelope (retries + 1) number).perform service =
      let round := Round.alone envelope service
      if round.conflicts then
        (attempts envelope retries (number + 1)).perform (round.retrying envelope number)
      else (round.ending, round.after) := by
  have amid := @perform_attemptsAmid_succ Interference.none service envelope retries number
  simp only [attemptsAmid_none, Round.make, unitOfWorkAmid_none] at amid
  exact amid

/-- The attempts that are made are the first ones up to one that meets no conflict, or as many as
there may be. -/
theorem exists_last_attempt (retries index : Nat) :
    ∃ last, index ≤ last ∧ last ≤ index + retries
      ∧ (∀ earlier, index ≤ earlier → earlier < last →
        (attemptAt envelope start earlier).conflicts = true)
      ∧ ((attemptAt envelope start last).conflicts = true → last = index + retries)
      ∧ (attempts envelope retries (index + 1)).perform (serviceAt envelope start index) =
        ((attemptAt envelope start last).ending, (attemptAt envelope start last).after) := by
  induction retries generalizing index with
  | zero =>
      exact ⟨index, Nat.le_refl _, Nat.le_refl _, by omega, fun _ => rfl, rfl⟩
  | succ retries ih =>
      rw [perform_attempts_succ]
      cases conflict : (attemptAt envelope start index).conflicts with
      | false =>
          refine ⟨index, Nat.le_refl _, by omega, by omega, fun met => ?_, ?_⟩
          · rw [conflict] at met
            cases met
          · exact if_neg (by rw [← attemptAt, conflict]; simp)
      | true =>
          obtain ⟨last, least, most, earlier, exhausted, performed⟩ := ih (index + 1)
          refine ⟨last, by omega, by omega, fun other lower before => ?_, fun met => ?_, ?_⟩
          · rcases Nat.eq_or_lt_of_le lower with rfl | after
            · exact conflict
            · exact earlier other after before
          · have := exhausted met
            omega
          · exact (if_pos conflict).trans performed

/-! ## One attempt -/

/-- An attempt from rest is one that its task tells of. -/
theorem attempted_alone
    (envelope : Envelope OrderCompleted)
    (rests : service.Rests tables) :
    ∃ next,
      Attempted (service.task envelope) tables (Round.alone envelope service).ending next
          (Round.alone envelope service).sent
        ∧ service.Continues next (Round.alone envelope service).sent
          (Round.alone envelope service).after := by
  cases performed : (unitOfWork envelope).perform service with
  | mk ending after =>
      obtain ⟨next, sent, attempted, continues⟩ := attempted_unitOfWork rests performed
      have same : (Round.alone envelope service).sent = sent := by
        simp [Round.sent, Round.alone, performed, continues.sent]
      rw [same]
      simp only [Round.alone, performed]
      exact ⟨next, attempted, continues⟩

/-! ## The attempts before the last one -/

/-- What attempts at an order have told: so many conflicts, one after the other, and of taken
numbers only the one that was due. -/
structure Recounted
    (envelope : Envelope OrderCompleted)
    (tables : Tables)
    (conflicts : Nat)
    (lines : List LogLine) : Prop where
  warnings : lines.filter LogLine.warns =
    (List.range conflicts).map fun index => conflictLine envelope (index + 1)
  numbers : ∀ line ∈ lines, line.source = .sequences →
    line = allocationLine envelope.resolvedKey (tables.due envelope.resolvedKey)

/-- An attempt tells of no further conflict. -/
theorem Recounted.append
    {conflicts : Nat}
    {lines more : List LogLine}
    (recounted : Recounted envelope tables conflicts lines)
    (plain : ∀ line ∈ more, Plain tables envelope.resolvedKey line) :
    Recounted envelope tables conflicts (lines ++ more) where
  warnings := by
    have silent : more.filter LogLine.warns = [] :=
      List.filter_eq_nil_iff.mpr fun line member => by simp [(plain line member).quiet]
    rw [List.filter_append, silent, List.append_nil, recounted.warnings]
  numbers line member := by
    rcases List.mem_append.mp member with member | member
    · exact recounted.numbers line member
    · exact (plain line member).number

/-- After an attempt one more conflict is told. -/
theorem Recounted.conflict
    {conflicts : Nat}
    {lines : List LogLine}
    (recounted : Recounted envelope tables conflicts lines) :
    Recounted envelope tables (conflicts + 1) (lines ++ [conflictLine envelope (conflicts + 1)])
    where
  warnings := by
    rw [List.filter_append, recounted.warnings, List.range_succ, List.map_append]
    rfl
  numbers line member numbered := by
    rcases List.mem_append.mp member with member | member
    · exact recounted.numbers line member numbered
    · rw [List.mem_singleton.mp member] at numbered
      cases numbered

/-- The attempts before one use up identifiers, faults of the broker and messages, and leave lines
in the log. -/
structure Restored
    (envelope : Envelope OrderCompleted)
    (tables : Tables)
    (start : Service)
    (index : Nat) : Prop where
  continues : start.Continues tables (sentBefore envelope start index)
    (serviceAt envelope start index)
  deadLetters : (serviceAt envelope start index).deadLetters = start.deadLetters
  recounted : ∃ lines, (serviceAt envelope start index).log = start.log ++ lines
    ∧ Recounted envelope tables index lines

/-- An attempt that meets a conflict fails. -/
theorem Round.exists_failure
    {round : Round}
    (conflict : round.conflicts = true) : ∃ failure, round.ending = .error failure := by
  cases ending : round.ending with
  | ok result =>
      rw [conflicts, ending] at conflict
      cases conflict
  | error failure => exact ⟨failure, rfl⟩

/-- An attempt leaves the publisher of dead letters. -/
theorem deadLetters_alone
    (envelope : Envelope OrderCompleted)
    (service : Service) :
    (Round.alone envelope service).after.deadLetters = service.deadLetters := by
  obtain ⟨next, worked, -⟩ := worked_unitOfWork (Worked.refl service)
    (rfl : (unitOfWork envelope).perform service = _)
  exact worked.deadLetters

/-- The messages of the first attempts and of the one after them. -/
theorem sentBefore_succ (index : Nat) :
    sentBefore envelope start (index + 1) =
      sentBefore envelope start index ++ (attemptAt envelope start index).sent := by
  simp [sentBefore, List.range_succ, List.flatMap_append]

/-- While attempts meet conflicts, the next one starts as the first one did. -/
theorem restored_of_conflicts
    (rests : start.Rests tables)
    (index : Nat)
    (conflicts : ∀ earlier < index, (attemptAt envelope start earlier).conflicts = true) :
    Restored envelope tables start index := by
  induction index with
  | zero =>
      exact ⟨⟨rests, rfl, rfl, rfl, rfl, rfl, by simp [sentBefore, serviceAt]⟩, rfl, [],
        by simp [serviceAt], rfl, by simp⟩
  | succ index ih =>
      obtain ⟨continues, deadLetters, lines, log, recounted⟩ :=
        ih fun earlier before => conflicts earlier (Nat.lt_succ_of_lt before)
      obtain ⟨next, attempted, continued⟩ := attempted_alone envelope continues.rests
      obtain ⟨failure, failed⟩ := Round.exists_failure (conflicts index (Nat.lt_succ_self index))
      obtain ⟨more, told, plain⟩ := @told_unitOfWork _ _ envelope continues.rests
      rw [← attemptAt, failed] at attempted
      obtain rfl := attempted.kept
      refine ⟨?_, ?_, lines ++ more ++ [conflictLine envelope (index + 1)], ?_, ?_⟩
      · rw [sentBefore_succ]
        exact (continues.trans continued).log _
      · exact (deadLetters_alone envelope _).trans deadLetters
      · change _ ++ [conflictLine envelope (index + 1)] = _
        rw [Round.alone, told, log]
        simp only [List.append_assoc]
      · exact (recounted.append plain).conflict

/-! ## Handling -/

/-- How the handling of an order ends when so many attempts come before the last one. -/
structure Retried
    (envelope : Envelope OrderCompleted)
    (retries : Int)
    (tables : Tables)
    (start : Service)
    (last : Nat)
    (ending : Except Failure Result)
    (after : Service) : Prop where
  /-- All attempts but the last one meet a conflict. -/
  conflicts : ∀ index < last, (attemptAt envelope start index).conflicts = true
  /-- There are no more attempts than the retries allow, and always one. -/
  within : (last : Int) + 1 ≤ max 1 (retries + 1)
  /-- The last attempt meets a conflict only if it is the last one that the retries allow. -/
  exhausted : (attemptAt envelope start last).conflicts = true →
    (last : Int) + 1 = max 1 (retries + 1)
  /-- Every attempt starts as the first one did, but for what cannot be given back. -/
  restored : ∀ index ≤ last, serviceAt envelope start index =
    { start with
      issued := (serviceAt envelope start index).issued
      broker := (serviceAt envelope start index).broker
      events := { start.events with connected := (serviceAt envelope start index).events.connected }
      log := (serviceAt envelope start index).log }
  /-- The handling ends as the last attempt does by itself. -/
  ended : (unitOfWork envelope).perform (serviceAt envelope start last) = (ending, after)
  /-- A failure leaves the tables. -/
  kept : ∀ failure, ending = .error failure → after.store = start.store
  /-- Every attempt sends one message at most, and only the last one an acknowledged message. -/
  sent : after.broker.sent = start.broker.sent ++ sentBefore envelope start (last + 1)
  single : ∀ index ≤ last, (attemptAt envelope start index).sent.length ≤ 1
  unacknowledged : ∀ index < last, ∀ message ∈ (attemptAt envelope start index).sent,
    message.acknowledged = false
  /-- Every number that is told by a message, a result or the log is the one that was due. -/
  numbered : ∀ index ≤ last, ∀ message ∈ (attemptAt envelope start index).sent,
    ∃ event, Event.decodeShippingCreated? message.value = some event
      ∧ event.partitionKey = envelope.resolvedKey
      ∧ event.number? = some (tables.due envelope.resolvedKey)
  sequence : ∀ result number, ending = .ok result → result.sequence = some number →
    number = tables.due envelope.resolvedKey
  /-- The log tells of the conflicts of all attempts but the last one. -/
  told : ∃ lines, after.log = start.log ++ lines ∧ Recounted envelope tables last lines

/-- A service that continues from rest differs in what it has used up only. -/
theorem eq_of_continues
    {sent : List Message}
    {after : Service}
    (rests : start.Rests tables)
    (continues : start.Continues tables sent after)
    (deadLetters : after.deadLetters = start.deadLetters) :
    after =
      { start with
        issued := after.issued
        broker := after.broker
        events := { start.events with connected := after.events.connected }
        log := after.log } := by
  have store : after.store = start.store := continues.rests.store.trans rests.store.symm
  have faults : after.storeFaults = start.storeFaults :=
    continues.rests.faults.trans rests.faults.symm
  have events : after.events = ⟨start.events.topic, after.events.connected⟩ := by
    rw [← continues.topic]
  have ⟨_, settings, clock, identifier, _, routingKey, _⟩ := continues
  cases after
  cases start
  rw [Service.mk.injEq]
  exact ⟨settings, clock, identifier, rfl, store, faults, rfl, events, routingKey, deadLetters, rfl⟩

/-- Nobody else commits anything.  For any body that holds a completed order, any tables, settings,
faults of the broker and number of retries, the order is attempted until an attempt meets no
conflict, or as often as the retries allow. -/
theorem retried_handle
    {body : Option Bytes}
    (decoded : Event.decodeOrderCompleted body = .ok envelope)
    (service : Service)
    (tables : Tables)
    (retries : Int) :
    let start := service.over tables
    let handled := (handle retries body).perform start
    ∃ last, Retried envelope retries tables start last handled.1 handled.2 := by
  intro start handled
  have rests : start.Rests tables := service.rests_over tables
  obtain ⟨last, -, most, earlier, exhausted, performed⟩ :=
    @exists_last_attempt envelope start retries.toNat 0
  have same : handled =
      ((attemptAt envelope start last).ending, (attemptAt envelope start last).after) := by
    simp only [handled, handle, decoded]
    exact performed
  have conflicts : ∀ index < last, (attemptAt envelope start index).conflicts = true :=
    fun index before => earlier index (Nat.zero_le index) before
  have restored (index : Nat) (most : index ≤ last) : Restored envelope tables start index :=
    restored_of_conflicts rests index fun earlier before =>
      conflicts earlier (Nat.lt_of_lt_of_le before most)
  have attempted (index : Nat) (most : index ≤ last) :=
    attempted_alone envelope (restored index most).continues.rests
  obtain ⟨continues, -, lines, log, recounted⟩ := restored last (Nat.le_refl last)
  obtain ⟨next, final, continued⟩ := attempted last (Nat.le_refl last)
  obtain ⟨more, told, plain⟩ := @told_unitOfWork _ _ envelope continues.rests
  rw [← attemptAt] at final continued
  simp only [same]
  refine ⟨last, conflicts, by omega, fun met => ?_, ?_, rfl, ?_, ?_, ?_, ?_, ?_, ?_,
    lines ++ more, ?_, recounted.append plain⟩
  · have all := exhausted met
    omega
  · intro index most
    exact eq_of_continues rests (restored index most).continues (restored index most).deadLetters
  · intro failure failed
    rw [failed] at final
    rw [continued.rests.store, final.kept, rests.store]
  · rw [sentBefore_succ]
    exact (continues.trans continued).sent
  · intro index most
    obtain ⟨next, attempted, -⟩ := attempted index most
    exact attempted.length_le_one
  · intro index before message member
    obtain ⟨next, attempted, -⟩ := attempted index (Nat.le_of_lt before)
    obtain ⟨failure, failed⟩ := Round.exists_failure (conflicts index before)
    rw [← attemptAt, failed] at attempted
    exact attempted.unacknowledged message member
  · intro index most message member
    obtain ⟨next, attempted, -⟩ := attempted index most
    exact attempted.numbered member
  · intro result number ended
    rw [ended] at final
    exact final.sequence_eq
  · rw [attemptAt, Round.alone, told, log, List.append_assoc]

/-- A service whose settings lack a part of every shipment. -/
def methodless : Service where
  settings := { shippingMethod := none }
  clock := redeliveredOrder.occurredAt

theorem retried_methodless :
    Event.decodeOrderCompleted (some redeliveredBody) = .ok redeliveredOrder
      ∧ ∃ after, Retried redeliveredOrder 2 {} (methodless.over {}) 2
        (.error (.store (.absent (Tables.shipmentColumn "shipping_method")))) after := by
  refine ⟨decode_redeliveredBody, ?_⟩
  obtain ⟨last, retried⟩ := retried_handle decode_redeliveredBody methodless {} 2
  generalize (handle 2 (some redeliveredBody)).perform (methodless.over {}) = handled at retried
  obtain ⟨ending, after⟩ := handled
  have failing : ∀ index < 3, (attemptAt redeliveredOrder (methodless.over {}) index).conflicts =
      true := by
    decide
  have all : last = 2 := by
    have within := retried.within
    have exhausted := retried.exhausted (failing last (by omega))
    omega
  subst all
  obtain rfl : .error (.store (.absent (Tables.shipmentColumn "shipping_method"))) = ending :=
    congrArg Prod.fst retried.ended
  exact ⟨after, retried⟩

end Workflow
end Fulfilment
