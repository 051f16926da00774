import Fulfilment.Proofs.Contention.Attempt
import Fulfilment.Proofs.Event.RoundTrip
import Fulfilment.Proofs.Workflow.Attempt
import Mathlib.Data.List.Chain

/-!
# How many retries suffice

A conflict tells of a row that somebody else has committed, and committed rows stay.  So the attempt
after a conflict over the ledger is a duplicate, and the one after a conflict over the shipments
inserts none and can at most meet a conflict over the ledger.  Two retries therefore always suffice,
whatever others commit between the calls of the store.  One does not: the second attempt may be
overtaken between its look-up in the ledger and its entry there.
-/

namespace Fulfilment
namespace Workflow

open Fulfilment.Action Fulfilment.Change Fulfilment.Service

/-- An attempt as it is seen from outside. -/
structure Round where
  before : Service
  ending : Except Failure Result
  after : Service

namespace Round

/-- The attempt that a service makes. -/
def make
    (others : StoreCall → Tables)
    (envelope : Envelope OrderCompleted)
    (service : Service) : Round :=
  let (ending, after) := (unitOfWorkAmid others envelope).perform service
  ⟨service, ending, after⟩

/-- An attempt meets a conflict. -/
def conflicts (round : Round) : Bool :=
  match round.ending with
  | .ok _ => false
  | .error failure => failure.isConflict

theorem conflicts_of_ending
    {round : Round}
    {failure : Failure}
    (ending : round.ending = .error failure) : round.conflicts = failure.isConflict := by
  rw [conflicts, ending]

/-- An attempt meets a conflict over a column. -/
def ConflictsOn
    (round : Round)
    (column : Column) : Prop :=
  round.ending = .error (.store (.taken column))

theorem ConflictsOn.unique
    {round : Round}
    {first second : Column}
    (one : round.ConflictsOn first)
    (other : round.ConflictsOn second) : first = second := by
  cases one.symm.trans other
  rfl

/-- An attempt inserts no shipment: it does not even issue an identifier for one. -/
def InsertsNoShipment (round : Round) : Prop :=
  round.after.issued = round.before.issued

/-- The service that makes the next attempt after a conflict. -/
def retrying
    (round : Round)
    (envelope : Envelope OrderCompleted)
    (number : Nat) : Service :=
  ((tellConflict envelope number).perform round.after).2

/-- What is known of an attempt from the one before it. -/
structure Follows (first second : Round) : Prop where
  duplicate : first.ConflictsOn eventColumn →
    ∃ result, second.ending = .ok result ∧ result.outcome = .duplicate
  shipped : first.ConflictsOn orderColumn → second.InsertsNoShipment
  entry : first.ConflictsOn orderColumn → second.conflicts = true → second.ConflictsOn eventColumn

end Round

theorem eventColumn_ne_orderColumn : eventColumn ≠ orderColumn := by decide

/-- The attempts at an order, one after the other. -/
def rounds
    (others : Interference)
    (envelope : Envelope OrderCompleted) : Nat → Nat → Service → List Round
  | 0, number, service => [.make (others number) envelope service]
  | retries + 1, number, service =>
      let round := Round.make (others number) envelope service
      if round.conflicts then
        round :: rounds others envelope retries (number + 1) (round.retrying envelope number)
      else [round]

/-- The attempts that handling a body makes. -/
def roundsOf
    (others : Interference)
    (retries : Int)
    (body : Option Bytes)
    (service : Service) : List Round :=
  match Event.decodeOrderCompleted body with
  | .ok envelope => rounds others envelope retries.toNat 1 service
  | .error _ => []

/-- What is known of the attempts at an order: at most two meet a conflict, each of them over a
known event or over a shipped order, and every attempt follows from the one before. -/
structure Overtaken (rounds : List Round) : Prop where
  twice : rounds.countP Round.conflicts ≤ 2
  columns : ∀ round ∈ rounds, round.conflicts = true →
    round.ConflictsOn eventColumn ∨ round.ConflictsOn orderColumn
  follows : rounds.IsChain Round.Follows

variable
  {others : Interference}
  {service : Service}
  {tables : Tables}
  {envelope : Envelope OrderCompleted}

theorem exists_rounds_eq_cons
    (others : Interference)
    (envelope : Envelope OrderCompleted)
    (retries number : Nat)
    (service : Service) :
    ∃ rest, rounds others envelope retries number service =
      .make (others number) envelope service :: rest := by
  cases retries with
  | zero => exact ⟨[], rfl⟩
  | succ retries =>
      simp only [rounds]
      split
      · exact ⟨_, rfl⟩
      · exact ⟨[], rfl⟩

/-- After an attempt that met a conflict come the others, and any other attempt is the last. -/
theorem perform_attemptsAmid_succ (retries number : Nat) :
    (attemptsAmid others envelope (retries + 1) number).perform service =
      let round := Round.make (others number) envelope service
      if round.conflicts then
        (attemptsAmid others envelope retries (number + 1)).perform (round.retrying envelope number)
      else (round.ending, round.after) := by
  cases working : (unitOfWorkAmid (others number) envelope).perform service with
  | mk ending between =>
      simp only [attemptsAmid, perform_bind, perform_attempt, Round.make, working, Round.conflicts]
      cases ending with
      | ok value => rfl
      | error failure =>
          by_cases conflict : failure.isConflict
          · simp only [conflict, if_true, perform_bind]
            rfl
          · simp [conflict]

/-- The attempts end as the last of them does. -/
theorem getLast?_rounds (retries number : Nat) :
    (rounds others envelope retries number service).getLast?.map
        (fun round => (round.ending, round.after)) =
      some ((attemptsAmid others envelope retries number).perform service) := by
  induction retries generalizing number service with
  | zero => rfl
  | succ retries ih =>
      rw [perform_attemptsAmid_succ]
      simp only [rounds]
      split
      · obtain ⟨rest, shape⟩ := exists_rounds_eq_cons others envelope retries (number + 1)
          ((Round.make (others number) envelope service).retrying envelope number)
        rw [shape, List.getLast?_cons_cons, ← shape, ih]
      · rfl

/-- Where a conflict escapes, every attempt has met one. -/
theorem countP_rounds_of_escaped
    {retries number : Nat}
    {failure : Failure}
    (escaped :
      ((attemptsAmid others envelope retries number).perform service).1 = .error failure)
    (conflict : failure.isConflict = true) :
    (rounds others envelope retries number service).countP Round.conflicts = retries + 1 := by
  induction retries generalizing number service with
  | zero =>
      have met : (Round.make (others number) envelope service).conflicts = true :=
        (Round.conflicts_of_ending escaped).trans conflict
      simp [rounds, met]
  | succ retries ih =>
      rw [perform_attemptsAmid_succ] at escaped
      simp only [rounds] at escaped ⊢
      split at escaped
      · next met => rw [if_pos met, List.countP_cons_of_pos met, ih escaped]
      · next calm => exact absurd ((Round.conflicts_of_ending escaped).trans conflict) calm

/-- A fair service stays fair when it goes on from committed tables that have only grown. -/
theorem Fair.again
    {number issued : Nat}
    {next : Tables}
    (fair : Fair others service tables)
    (grown : Grown (others number) tables next)
    (least : service.issued ≤ issued)
    (log : List LogLine) : Fair others (service.writing (.ofTables next) issued log) next where
  rests := ⟨rfl, fair.rests.faults⟩
  method := fair.method
  carrier := fair.carrier
  connecting := fair.connecting
  sending := fair.sending
  unused index later :=
    have later := Nat.lt_of_le_of_lt least later
    grown.unused (fair.unused index later) (fair.foreign index later number)
  foreign index later := fair.foreign index (Nat.lt_of_le_of_lt least later)

/-- What an attempt that meets a conflict leaves behind: the row that it conflicts with is
committed, and the next attempt is as fair. -/
inductive Clash
    (others : Interference)
    (envelope : Envelope OrderCompleted)
    (tables : Tables)
    (round : Round)
    (next : Service) : Prop where
  | entry {committed : Tables}
      (column : round.ConflictsOn eventColumn)
      (fair : Fair others next committed)
      (known : KnownIn envelope committed)
  | order {committed : Tables}
      (column : round.ConflictsOn orderColumn)
      (fair : Fair others next committed)
      (unshipped : ¬ tables.HasShipment envelope.payload.orderId)
      (shipped : committed.HasShipment envelope.payload.orderId)

/-- After an attempt with nothing pending the next one starts from the committed tables. -/
theorem exists_retrying_eq
    {number issued : Nat}
    {log : List LogLine}
    {ending : Except Failure Result}
    {store : Store}
    (clean : store = .ofTables store.committed) :
    ∃ told, (Round.mk service ending (service.writing store issued log)).retrying envelope number =
      service.writing (.ofTables store.committed) issued told := by
  obtain ⟨told, telling⟩ := perform_tellConflict envelope number
    (service.writing store issued log)
  refine ⟨told, ?_⟩
  rw [Round.retrying, telling, ← clean]
  rfl

/-- A conflict leaves the row that it is about committed. -/
theorem clash_of_conflicts
    {number : Nat}
    (fair : Fair others service tables)
    (conflict : (Round.make (others number) envelope service).conflicts = true) :
    Clash others envelope tables (.make (others number) envelope service)
      ((Round.make (others number) envelope service).retrying envelope number) := by
  cases working : (unitOfWorkAmid (others number) envelope).perform service with
  | mk ending between =>
      obtain ⟨ended, clean⟩ := processedAmid_unitOfWorkAmid fair working
      simp only [Round.make, working] at conflict ⊢
      cases ended with
      | duplicate seen log => cases conflict
      | done unknown quiet opened faultless => cases conflict
      | failed unknown quiet harmless => cases harmless.symm.trans conflict
      | @entryTaken store issued log unknown quiet least grown known =>
          have stored : store = .ofTables store.committed := clean _ rfl
          obtain ⟨told, next⟩ := exists_retrying_eq stored
          exact .entry rfl (next ▸ fair.again grown least told) known
      | @orderTaken store issued log unknown unshipped least grown shipped =>
          have stored : store = .ofTables store.committed := clean _ rfl
          obtain ⟨told, next⟩ := exists_retrying_eq stored
          exact .order rfl (next ▸ fair.again grown least told) unshipped shipped

/-- An attempt at a known event is a duplicate. -/
theorem duplicate_make
    (fair : Fair others service tables)
    (known : KnownIn envelope tables)
    (number : Nat) :
    ∃ result, (Round.make (others number) envelope service).ending = .ok result
      ∧ result.outcome = .duplicate := by
  cases working : (unitOfWorkAmid (others number) envelope).perform service with
  | mk ending between =>
      obtain ⟨ended, -⟩ := processedAmid_unitOfWorkAmid fair working
      simp only [Round.make, working]
      cases ended with
      | duplicate seen log => exact ⟨_, rfl, rfl⟩
      | done unknown => exact absurd known unknown
      | failed unknown => exact absurd known unknown
      | entryTaken issued log unknown => exact absurd known unknown
      | orderTaken issued log unknown => exact absurd known unknown

/-- An attempt at a shipped order inserts no shipment. -/
theorem insertsNoShipment_make
    {number : Nat}
    (fair : Fair others service tables)
    (shipped : tables.HasShipment envelope.payload.orderId) :
    (Round.make (others number) envelope service).InsertsNoShipment := by
  cases working : (unitOfWorkAmid (others number) envelope).perform service with
  | mk ending between =>
      obtain ⟨ended, -⟩ := processedAmid_unitOfWorkAmid fair working
      simp only [Round.make, working, Round.InsertsNoShipment]
      cases ended with
      | duplicate seen log => rfl
      | done unknown quiet => exact quiet shipped
      | failed unknown quiet => exact quiet shipped
      | entryTaken issued log unknown quiet => exact quiet shipped
      | orderTaken issued log unknown unshipped => exact absurd shipped unshipped

theorem Clash.columns
    {round : Round}
    {next : Service}
    (clash : Clash others envelope tables round next) :
    round.ConflictsOn eventColumn ∨ round.ConflictsOn orderColumn := by
  cases clash with
  | entry column => exact .inl column
  | order column => exact .inr column

theorem Clash.entry_of_hasShipment
    {round : Round}
    {next : Service}
    (clash : Clash others envelope tables round next)
    (shipped : tables.HasShipment envelope.payload.orderId) :
    round.ConflictsOn eventColumn ∧ ∃ committed, Fair others next committed
      ∧ KnownIn envelope committed := by
  cases clash with
  | entry column fair known => exact ⟨column, _, fair, known⟩
  | order column fair unshipped => exact absurd shipped unshipped

/-- The attempt after a conflict follows from it. -/
theorem follows_make
    {number : Nat}
    (fair : Fair others service tables)
    (conflict : (Round.make (others number) envelope service).conflicts = true) :
    (Round.make (others number) envelope service).Follows
      (.make (others (number + 1)) envelope
        ((Round.make (others number) envelope service).retrying envelope number)) := by
  cases clash_of_conflicts fair conflict with
  | entry column fair known =>
      have other : ¬ (Round.make (others number) envelope service).ConflictsOn orderColumn :=
        fun other => eventColumn_ne_orderColumn (column.unique other)
      exact ⟨fun _ => duplicate_make fair known _, fun same => absurd same other,
        fun same => absurd same other⟩
  | order column fair unshipped shipped =>
      have other : ¬ (Round.make (others number) envelope service).ConflictsOn eventColumn :=
        fun other => eventColumn_ne_orderColumn (other.unique column)
      exact ⟨fun same => absurd same other, fun _ => insertsNoShipment_make fair shipped,
        fun _ again => ((clash_of_conflicts fair again).entry_of_hasShipment shipped).1⟩

theorem countP_rounds_of_knownIn
    {number : Nat}
    (fair : Fair others service tables)
    (known : KnownIn envelope tables)
    (retries : Nat) :
    (rounds others envelope retries number service).countP Round.conflicts = 0 := by
  obtain ⟨result, ending, -⟩ := duplicate_make fair known number
  have calm : (Round.make (others number) envelope service).conflicts = false := by
    rw [Round.conflicts, ending]
  cases retries with
  | zero => simp [rounds, calm]
  | succ retries => simp [rounds, calm]

/-- Attempts meet one conflict more than the attempts after the first one, or none. -/
theorem countP_rounds_le
    {number bound : Nat}
    (rest : (Round.make (others number) envelope service).conflicts = true → ∀ retries,
      (rounds others envelope retries (number + 1)
        ((Round.make (others number) envelope service).retrying envelope number)).countP
          Round.conflicts ≤ bound)
    (retries : Nat) :
    (rounds others envelope retries number service).countP Round.conflicts ≤ bound + 1 := by
  cases retries with
  | zero =>
      have single := List.countP_le_length (p := Round.conflicts)
        (l := rounds others envelope 0 number service)
      simp only [rounds, List.length_singleton] at single ⊢
      omega
  | succ retries =>
      simp only [rounds]
      split
      · next conflict =>
          rw [List.countP_cons_of_pos conflict]
          exact Nat.succ_le_succ (rest conflict retries)
      · next calm => simp [List.countP_cons_of_neg calm]

theorem countP_rounds_of_hasShipment
    {number : Nat}
    (fair : Fair others service tables)
    (shipped : tables.HasShipment envelope.payload.orderId)
    (retries : Nat) :
    (rounds others envelope retries number service).countP Round.conflicts ≤ 1 := by
  refine countP_rounds_le (fun conflict retries => ?_) retries
  obtain ⟨-, committed, fair, known⟩ :=
    (clash_of_conflicts fair conflict).entry_of_hasShipment shipped
  exact Nat.le_of_eq (countP_rounds_of_knownIn fair known retries)

/-- Attempts meet at most two conflicts. -/
theorem countP_rounds
    {number : Nat}
    (fair : Fair others service tables)
    (retries : Nat) :
    (rounds others envelope retries number service).countP Round.conflicts ≤ 2 := by
  refine countP_rounds_le (fun conflict retries => ?_) retries
  -- Behind the first conflict the event is known, or the order is shipped.
  cases clash_of_conflicts fair conflict with
  | entry column fair known =>
      exact Nat.le_succ_of_le (Nat.le_of_eq (countP_rounds_of_knownIn fair known retries))
  | order column fair unshipped shipped => exact countP_rounds_of_hasShipment fair shipped retries

theorem Clash.fair
    {round : Round}
    {next : Service}
    (clash : Clash others envelope tables round next) :
    ∃ committed, Fair others next committed := by
  cases clash with
  | entry column fair known => exact ⟨_, fair⟩
  | order column fair unshipped shipped => exact ⟨_, fair⟩

theorem columns_rounds
    {number : Nat}
    (fair : Fair others service tables)
    (retries : Nat) :
    ∀ round ∈ rounds others envelope retries number service, round.conflicts = true →
      round.ConflictsOn eventColumn ∨ round.ConflictsOn orderColumn := by
  -- A conflict leaves a fair service, so what holds of the first attempt holds of the others.
  induction retries generalizing number service tables with
  | zero =>
      intro round member conflict
      obtain rfl := List.mem_singleton.mp member
      exact (clash_of_conflicts fair conflict).columns
  | succ retries ih =>
      intro round member conflict
      simp only [rounds] at member
      split at member
      · next clashing =>
          rcases List.mem_cons.mp member with rfl | member
          · exact (clash_of_conflicts fair clashing).columns
          · obtain ⟨committed, fair⟩ := (clash_of_conflicts fair clashing).fair
            exact ih fair round member conflict
      · obtain rfl := List.mem_singleton.mp member
        exact (clash_of_conflicts fair conflict).columns

/-- Every attempt follows from the one before. -/
theorem isChain_rounds
    {number : Nat}
    (fair : Fair others service tables)
    (retries : Nat) :
    (rounds others envelope retries number service).IsChain Round.Follows := by
  induction retries generalizing number service tables with
  | zero => exact .singleton _
  | succ retries ih =>
      simp only [rounds]
      split
      · next conflict =>
          obtain ⟨committed, next⟩ := (clash_of_conflicts fair conflict).fair
          obtain ⟨rest, shape⟩ := exists_rounds_eq_cons others envelope retries (number + 1)
            ((Round.make (others number) envelope service).retrying envelope number)
          have chain : (rounds others envelope retries (number + 1)
              ((Round.make (others number) envelope service).retrying envelope number)).IsChain
                Round.Follows := ih next
          rw [shape] at chain ⊢
          exact .cons_cons (follows_make fair conflict) chain
      · exact .singleton _

/-- With two retries no conflict escapes. -/
theorem not_isConflict_of_attemptsAmid
    {retries number : Nat}
    {failure : Failure}
    (fair : Fair others service tables)
    (enough : 2 ≤ retries)
    (ended : ((attemptsAmid others envelope retries number).perform service).1 = .error failure) :
    failure.isConflict = false := by
  cases conflict : failure.isConflict with
  | false => rfl
  | true =>
      have every := countP_rounds_of_escaped ended conflict
      have twice :
          (rounds others envelope retries number service).countP Round.conflicts ≤ 2 :=
        countP_rounds fair retries
      omega

theorem overtaken_roundsOf
    (fair : Fair others service tables)
    (retries : Int)
    (body : Option Bytes) : Overtaken (roundsOf others retries body service) := by
  unfold roundsOf
  split
  · exact ⟨countP_rounds fair _, columns_rounds fair _, isChain_rounds fair _⟩
  · exact ⟨Nat.zero_le 2, fun _ member => (List.not_mem_nil member).elim, .nil⟩

theorem getLast?_roundsOf
    {body : Option Bytes}
    (retries : Int)
    (decoded : Event.decodeOrderCompleted body = .ok envelope) :
    (roundsOf others retries body service).getLast?.map
        (fun round => (round.ending, round.after)) =
      some ((handleAmid others retries body).perform service) := by
  simp only [roundsOf, handleAmid, decoded]
  exact getLast?_rounds retries.toNat 1

/-- With two retries no conflict escapes from the handling of a body. -/
theorem not_isConflict_of_handleAmid
    {retries : Int}
    {body : Option Bytes}
    {failure : Failure}
    (fair : Fair others service tables)
    (enough : 2 ≤ retries)
    (ended : ((handleAmid others retries body).perform service).1 = .error failure) :
    failure.isConflict = false := by
  unfold handleAmid at ended
  split at ended
  · have enough : 2 ≤ retries.toNat := by omega
    exact not_isConflict_of_attemptsAmid fair enough ended
  · cases ended
  · next error _ _ =>
      cases ended
      cases error <;> rfl

/-- An order that is delivered again. -/
def redeliveredOrder : Envelope OrderCompleted where
  eventName := EventType.orderCompleted.name
  eventVersion := EventType.version
  eventId := some (.numbered 1)
  correlationId := none
  causationId := none
  producer := "order-service"
  partitionKey := "overtaken"
  sequence := none
  occurredAt := ⟨⟨⟨2025, 1, 1, isDate_firstOf2025⟩, .midnight⟩⟩
  schemaRef := ""
  payload := {
    orderId := .numbered 2
    userId := .numbered 3
    timestamp := ⟨⟨⟨2025, 1, 1, isDate_firstOf2025⟩, .midnight⟩, none⟩ }

/-- The body of a delivery of that order. -/
def redeliveredBody : Bytes := (Event.orderCompleted redeliveredOrder).encode

/-- The entry of an event that was acted upon at the time of that order. -/
def overtakingEntry (number : Nat) : LedgerEntry where
  eventId := .numbered number
  eventName := EventType.orderCompleted.name
  processedAt := redeliveredOrder.occurredAt.wall

/-- A shipment of that order, by another worker. -/
def overtakingShipment : Shipment where
  shippingId := ⟨Text.hexDigits 32 0, Text.length_hexDigits 32 0⟩
  orderId := redeliveredOrder.payload.orderId
  userId := redeliveredOrder.payload.userId
  address := warehouse
  shippingMethod := "standard"
  carrier := "carrier"
  createdAt := redeliveredOrder.occurredAt.wall

/-- Before the insertion of the first attempt one worker ships the order upon another event, and
before the entry of the second attempt one acts upon the event itself. -/
def overtaking : Interference
  | 1, .insertShipment => {
      shipments := [overtakingShipment]
      ledger := [overtakingEntry 4]
      counters := [(redeliveredOrder.partitionKey, 2)] }
  | 2, .insertEntry => { ledger := [overtakingEntry 1] }
  | _, _ => {}

/-- The service that is overtaken. -/
def overtakenService : Service where
  clock := redeliveredOrder.occurredAt

/-- Identifiers that are issued are not those of the overtaking shipment. -/
theorem numbered_ne_overtakingShipment (number : Nat) :
    Uuid.numbered number ≠ overtakingShipment.shippingId := by
  intro same
  have issued : (Uuid.numbered number).digits[12]? = some 4 := rfl
  rw [same] at issued
  cases issued

theorem fair_overtaking : Fair overtaking overtakenService {} where
  rests := ⟨rfl, rfl⟩
  method := rfl
  carrier := rfl
  connecting failure member := by cases member
  sending fault member := by cases member
  unused index _ := by simp [Tables.Uses]
  foreign index _ number call := by
    rintro ⟨shipment, member, same⟩
    unfold overtaking at member
    split at member
    · obtain rfl := List.mem_singleton.mp member
      exact numbered_ne_overtakingShipment index same.symm
    · cases member
    · cases member

theorem decode_redeliveredBody :
    Event.decodeOrderCompleted (some redeliveredBody) = .ok redeliveredOrder := by
  have typed : (Event.orderCompleted redeliveredOrder).IsTyped := ⟨rfl, rfl⟩
  have decoded : Event.decode (some redeliveredBody) EventType.orderCompleted.name
      EventType.version = .ok (.orderCompleted redeliveredOrder) := Event.decode_encode typed
  rw [Event.decodeOrderCompleted, decoded]

/-- Conflicts between workers: without interference the workflow is what it is.  Whatever others
commit between the calls of the store, the attempts at an order meet at most two conflicts, the one
after a conflict over the ledger is a duplicate, and the one after a conflict over the shipments
inserts none and conflicts over the ledger at most; with two retries no conflict escapes.  With the
one retry that is standard a conflict can escape, although the order is valid. -/
theorem overtaken_handleAmid :
    (∀ retries body, handleAmid Interference.none retries body = handle retries body)
      ∧ (∀ others service tables retries body,
        Fair others service tables →
          Overtaken (roundsOf others retries body service)
            ∧ (∀ envelope, Event.decodeOrderCompleted body = .ok envelope →
              (roundsOf others retries body service).getLast?.map
                  (fun round => (round.ending, round.after)) =
                some ((handleAmid others retries body).perform service))
            ∧ (2 ≤ retries → ∀ failure,
              ((handleAmid others retries body).perform service).1 = .error failure →
                failure.isConflict = false))
      ∧ ∃ others service body envelope,
        Fair others service {}
          ∧ service.settings = {}
          ∧ service.settings.conflictRetries = 1
          ∧ Event.decodeOrderCompleted body = .ok envelope
          ∧ ((handleAmid others service.settings.conflictRetries body).perform service).1 =
            .error (.store (.taken eventColumn)) := by
  refine ⟨handleAmid_none, ?_, ?_⟩
  · intro others service tables retries body fair
    exact ⟨overtaken_roundsOf fair retries body, fun _ => getLast?_roundsOf retries,
      fun enough _ => not_isConflict_of_handleAmid fair enough⟩
  · refine ⟨overtaking, overtakenService, some redeliveredBody, redeliveredOrder, fair_overtaking,
      rfl, rfl, decode_redeliveredBody, ?_⟩
    rw [handleAmid, decode_redeliveredBody]
    rfl

end Workflow
end Fulfilment
