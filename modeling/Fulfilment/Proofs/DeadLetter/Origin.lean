import Fulfilment.Consumer.DeadLetters
import Fulfilment.Proofs.Calendar.DayNumber
import Fulfilment.Proofs.Publish.Obstacle
import Fulfilment.Proofs.Text.Utf8

/-!
# What is told about a dead letter

The copy of a record takes the size of its value, the reason of its rejection and the value itself
to the log.  It takes the record's place there too, unless the record has headers about a place of
its own, as a dead letter that was sent back to its topic has.  Those are kept behind the headers of
the rejection, and of the headers with one name the last one is told.
-/

namespace Fulfilment
namespace DeadLetter

open Fulfilment.Action Fulfilment.Change

/-! ## Headers of one name -/

/-- The values of the headers of a name, in their order. -/
def valuesOf
    (name : String)
    (headers : List Header) : List Bytes :=
  headers.filterMap fun header => if header.1 = name then header.2 else none

/-- The text of the last value under a name. -/
def lastText?
    (name : String)
    (headers : List Header) : Option String :=
  (valuesOf name headers).getLast?.map Text.decodeLossy

/-- What is told of a record's headers depends on their list alone. -/
theorem headerText?_eq
    (record : Record)
    (name : String) : headerText? record name = lastText? name record.headerList := rfl

/-- Of two lists of headers the second one decides, if it has a value at all. -/
@[simp]
theorem lastText?_append
    (name : String)
    (first second : List Header) :
    lastText? name (first ++ second) = (lastText? name second).or (lastText? name first) := by
  simp only [lastText?, valuesOf, List.filterMap_append, List.getLast?_append]
  cases (List.filterMap (fun header : Header => if header.1 = name then header.2 else none)
    second).getLast? <;> rfl

/-- A header with a text has that text under its own name only. -/
@[simp]
theorem lastText?_ofText_cons
    (name other value : String)
    (headers : List Header) :
    lastText? name (Header.ofText other value :: headers) =
      (lastText? name headers).or (if other = name then some value else none) := by
  rw [← List.singleton_append, lastText?_append]
  by_cases same : other = name <;> simp [lastText?, valuesOf, Header.ofText, same]

/-- No headers have no text. -/
@[simp]
theorem lastText?_nil (name : String) : lastText? name [] = none := rfl

/-- No header whose name is marked as one about a rejection is kept. -/
theorem valuesOf_filter_isKept_of_mark
    {name : String}
    (marked : mark.toList.isPrefixOf name.toList = true)
    (headers : List Header) : valuesOf name (headers.filter isKept) = [] := by
  refine List.filterMap_eq_nil_iff.mpr fun header member => if_neg ?_
  rintro rfl
  obtain ⟨-, kept⟩ := List.mem_filter.mp member
  simp [isKept, marked] at kept

/-- Every header of another name is kept. -/
theorem valuesOf_filter_isKept
    {name : String}
    (unmarked : mark.toList.isPrefixOf name.toList = false)
    (headers : List Header) : valuesOf name (headers.filter isKept) = valuesOf name headers := by
  simp only [valuesOf, List.filterMap_filter]
  congr 1
  funext header
  by_cases same : header.1 = name
  · simp [isKept, same, unmarked]
  · simp [same]

/-! ## Provenance -/

/-- Where a record stands, in the words of the headers about it. -/
structure Origin where
  topic : String
  partition : String
  offset : String
deriving DecidableEq, Repr

/-- Where a record really stands. -/
def originOf (record : Record) : Origin where
  topic := record.topic
  partition := toString record.partition
  offset := toString record.offset

/-- Where the copy of a record is told to come from: what the record's own headers say of an origin
is told in place of what the rejection says. -/
def originTold (record : Record) : Origin where
  topic := (headerText? record topicHeader).getD record.topic
  partition := (headerText? record partitionHeader).getD (toString record.partition)
  offset := (headerText? record offsetHeader).getD (toString record.offset)

/-- What the log is told about a dead letter. -/
def account
    (letter : Record)
    (size : Nat)
    (reason : String)
    (origin : Origin)
    (payload : String) : String :=
  s!"Dead-lettered message {letter.description}: size={size} bytes, reason={reason}, "
    ++ s!"origin={origin.topic}[{origin.partition}]@{origin.offset}, payload={payload}"

/-- A record that was read from the broker holds what a message holds. -/
structure Carries
    (record : Record)
    (message : Message) : Prop where
  value : record.value = message.value
  headers : record.headers = some message.headers

/-- The reason of the last rejection is told, since no header of an earlier one is kept. -/
theorem lastText?_headers_reason
    (record : Record)
    (reason : String) : lastText? reasonHeader (headers record reason) = some reason := by
  have none : lastText? reasonHeader (record.headerList.filter isKept) = none := by
    rw [lastText?, valuesOf_filter_isKept_of_mark (by decide)]
    rfl
  rw [headers, lastText?_append, none, Option.none_or]
  simp [serviceHeaders, reasonHeader, topicHeader, partitionHeader, offsetHeader]

/-- Of what a rejection does not tell about itself, the record's own headers have the last word. -/
theorem lastText?_headers
    {name : String}
    (unmarked : mark.toList.isPrefixOf name.toList = false)
    (record : Record)
    (reason : String) :
    lastText? name (headers record reason) =
      (headerText? record name).or (lastText? name (serviceHeaders record reason)) := by
  rw [headers, lastText?_append, headerText?_eq, lastText?, lastText?,
    valuesOf_filter_isKept unmarked]
  rfl

/-- The origin that the headers of a copy tell. -/
theorem lastText?_headers_origin
    (record : Record)
    (reason : String) :
    lastText? topicHeader (headers record reason) = some (originTold record).topic
      ∧ lastText? partitionHeader (headers record reason) = some (originTold record).partition
      ∧ lastText? offsetHeader (headers record reason) = some (originTold record).offset := by
  have orElse (told : Option String) (own : String) : told.or (some own) = some (told.getD own) := by
    cases told <;> rfl
  refine ⟨?_, ?_, ?_⟩
  · rw [lastText?_headers (by decide), originTold, ← orElse]
    simp [serviceHeaders, reasonHeader, topicHeader, partitionHeader, offsetHeader]
  · rw [lastText?_headers (by decide), originTold, ← orElse]
    simp [serviceHeaders, reasonHeader, topicHeader, partitionHeader, offsetHeader]
  · rw [lastText?_headers (by decide), originTold, ← orElse]
    simp [serviceHeaders, reasonHeader, topicHeader, partitionHeader, offsetHeader]

/-- The log is told all about a copy that was read from the broker. -/
theorem observation_of_carries
    {record arrived : Record}
    {reason : String}
    {message : Message}
    (carries : Carries arrived message)
    (value : message.value = record.value)
    (copied : message.headers = headers record reason) :
    observation arrived =
      account arrived (record.value.getD []).length reason (originTold record)
        (Text.decodeLossy (record.value.getD [])) := by
  have list : arrived.headerList = headers record reason := by
    rw [Record.headerList, carries.headers, copied, Option.getD_some]
  obtain ⟨topic, partition, offset⟩ := lastText?_headers_origin record reason
  unfold observation account
  simp only [headerText?_eq, list, lastText?_headers_reason, topic, partition, offset,
    carries.value, value, Option.getD_some]

/-- The true origin is told exactly if the record's own headers say nothing else about it. -/
theorem originTold_eq_originOf_iff
    {record : Record} :
    originTold record = originOf record ↔
      (∀ text ∈ headerText? record topicHeader, text = record.topic)
        ∧ (∀ text ∈ headerText? record partitionHeader, text = toString record.partition)
        ∧ ∀ text ∈ headerText? record offsetHeader, text = toString record.offset := by
  have getD_eq_iff (told : Option String) (own : String) :
      told.getD own = own ↔ ∀ text ∈ told, text = own := by
    cases told <;> simp
  simp only [originTold, originOf, Origin.mk.injEq, getD_eq_iff]

/-- A copy that is rejected again is told to come from where the record was told to come from. -/
theorem originTold_of_carries
    {record arrived : Record}
    {reason : String}
    {message : Message}
    (carries : Carries arrived message)
    (copied : message.headers = headers record reason) : originTold arrived = originTold record := by
  have list : arrived.headerList = headers record reason := by
    rw [Record.headerList, carries.headers, copied, Option.getD_some]
  obtain ⟨topic, partition, offset⟩ := lastText?_headers_origin record reason
  simp only [originTold, headerText?_eq, list, topic, partition, offset, Option.getD_some]

/-- What is sent when a record is rejected is copied from it. -/
theorem copied_of_mem_settle
    {obstacle : Option Obstacle}
    {message letter : Message}
    (member : letter ∈ (Obstacle.settle obstacle message).2) :
    letter.value = message.value ∧ letter.headers = message.headers := by
  obtain ⟨acknowledged, rfl⟩ := Obstacle.eq_of_mem_settle member
  exact ⟨rfl, rfl⟩

/-- A rejected record is copied to the broker, unless that fails.  Whoever reads the copy tells the
log the size of the record's value, the reason, and the value.  The origin that is told is that of
the record, except where the record's own headers tell of another one. -/
theorem observed_send
    (service watching : Service)
    (record : Record)
    (reason : String) :
    let (ending, after) := (send record reason).perform service
    ∃ letters, after.broker.sent = service.broker.sent ++ letters
      ∧ (ending = .ok () → letters.length = 1)
      ∧ (∀ letter ∈ letters, ∀ arrived, Carries arrived letter →
        (observe arrived).perform watching =
          (.ok (), { watching with
            log := watching.log ++ [⟨.dispatch, .error,
              account arrived (record.value.getD []).length reason (originTold record)
                (Text.decodeLossy (record.value.getD []))⟩] }))
      ∧ (originTold record = originOf record ↔
        (∀ text ∈ headerText? record topicHeader, text = record.topic)
          ∧ (∀ text ∈ headerText? record partitionHeader, text = toString record.partition)
          ∧ ∀ text ∈ headerText? record offsetHeader, text = toString record.offset) := by
  cases performed : (send record reason).perform service with
  | mk ending after =>
  obtain ⟨-, copied, letters, sent, settled, ended⟩ := perform_send performed
  obtain ⟨copiedBy, lettersBy⟩ := Prod.mk.inj settled
  refine ⟨letters, sent, ?_, ?_, originTold_eq_originOf_iff⟩
  · rintro rfl
    cases obstacle : service.obstacle? .deadLetters with
    | none => simp [lettersBy, obstacle]
    | some met =>
        rw [copiedBy, obstacle] at ended
        cases ended
  · intro letter member arrived carries
    rw [lettersBy] at member
    obtain ⟨value, headers⟩ := copied_of_mem_settle member
    rw [observe, observation_of_carries carries value headers]
    rfl

/-- A record that is rejected where it was first delivered. -/
def firstDelivery : Record where
  topic := "order.completed"
  partition := 0
  offset := 3
  key := none
  value := some (Text.encode "\x7b\x7d")
  headers := none

/-- A copy of that record, sent back to another place of the topic. -/
def redelivery : Record where
  topic := "order.completed"
  partition := 2
  offset := 42
  key := none
  value := firstDelivery.value
  headers := some (headers firstDelivery "first")

/-- The dead letter of the redelivery, read from the broker. -/
def secondLetter : Record where
  topic := "shipping-service.dlq"
  partition := 0
  offset := 1
  key := none
  value := redelivery.value
  headers := some (headers redelivery "second")

/-- A service that nothing stands in the way of. -/
def unhindered : Service where
  clock := ⟨⟨⟨2025, 1, 1, isDate_firstOf2025⟩, .midnight⟩⟩

/-- The copy of a redelivery is told to come from the first delivery. -/
theorem misattributed_redelivery :
    (∃ letter, ((send redelivery "second").perform unhindered).2.broker.sent = [letter]
        ∧ Carries secondLetter letter)
      ∧ observation secondLetter =
        account secondLetter 2 "second" (originOf firstDelivery) "\x7b\x7d"
      ∧ observation secondLetter ≠
        account secondLetter 2 "second" (originOf redelivery) "\x7b\x7d" := by
  have told : observation secondLetter =
      account secondLetter 2 "second" (originOf firstDelivery) "\x7b\x7d" := by
    have sentBack :
        Carries redelivery (letter unhindered.deadLetters.topic firstDelivery "first") :=
      ⟨rfl, rfl⟩
    have again : originTold redelivery = originTold firstDelivery :=
      originTold_of_carries sentBack rfl
    have first : originTold firstDelivery = originOf firstDelivery := rfl
    have size : (redelivery.value.getD []).length = 2 := by decide +kernel
    have payload : Text.decodeLossy (redelivery.value.getD []) = "\x7b\x7d" :=
      Text.decodeLossy_encode _
    have carries :
        Carries secondLetter (letter unhindered.deadLetters.topic redelivery "second") :=
      ⟨rfl, rfl⟩
    rw [observation_of_carries carries rfl rfl, again, first, size, payload]
  refine ⟨⟨_, rfl, ⟨rfl, rfl⟩⟩, told, ?_⟩
  rw [told]
  decide +kernel

end DeadLetter
end Fulfilment
