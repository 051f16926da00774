import Fulfilment.Proofs.Calendar.DayNumber
import Fulfilment.Proofs.Publish.Obstacle
import Fulfilment.Proofs.Text.Utf8
import Mathlib.Data.List.Chain

/-!
# Copies of copies

A dead letter has the value of its record, the headers of the rejection in front of those that are
kept, and the key of the record as a text.  Reading a key as a text loses nothing exactly if the
key is valid, and what was written as a text is valid.  So a record that is rejected again and again
keeps its value, the key of its first copy, and every header that is not about a rejection.
-/

namespace Fulfilment
namespace DeadLetter

open Fulfilment.Action Fulfilment.Change

/-- A record that is rejected, the reason, and the service that rejects it. -/
structure Rejection where
  service : Service
  record : Record
  reason : String

/-- The dead letters that a rejection leaves with the broker. -/
def Rejection.letters (rejection : Rejection) : List Message :=
  ((send rejection.record rejection.reason).perform rejection.service).2.broker.sent.drop
    rejection.service.broker.sent.length

/-- A record that is read from the dead-letter topic holds what the letter holds. -/
structure Returns
    (letter : Message)
    (record : Record) : Prop where
  key : record.key = letter.key
  value : record.value = letter.value
  headers : record.headers = some letter.headers

/-- The dead letter of one rejection is the record of the next. -/
def Rejection.Follows (first second : Rejection) : Prop :=
  ∃ letter ∈ first.letters, Returns letter second.record

/-- What a dead letter has of its record. -/
structure Faithful
    (record : Record)
    (reason : String)
    (letter : Message) : Prop where
  value : letter.value = record.value
  /-- Behind the headers of the rejection are those of the record that are kept, as they are. -/
  headers : letter.headers = serviceHeaders record reason ++ record.headerList.filter isKept
  /-- Of the reasons only the last one is told. -/
  reasonOnce : letter.headers.countP (fun header => header.1 = reasonHeader) = 1
  /-- The key is that of the record exactly if there is none or a valid one with some bytes. -/
  key_eq_iff : letter.key = record.key ↔ ∀ bytes ∈ record.key, bytes ≠ [] ∧ Text.IsValid bytes
  /-- An empty key becomes none. -/
  key_of_empty : record.key = some [] → letter.key = none
  /-- A key that is not valid becomes a text with a replacement character. -/
  key_of_invalid : ∀ bytes ∈ record.key, ¬ Text.IsValid bytes →
    ∃ text, letter.key = some (Text.encode text) ∧ '\uFFFD' ∈ text.toList

/-- What a dead letter has of an earlier one. -/
structure Retains (earlier later : Message) : Prop where
  key : later.key = earlier.key
  value : later.value = earlier.value
  /-- The headers that are kept end the later letter, whatever was put in front of them. -/
  headers : earlier.headers.filter isKept <:+ later.headers

/-- A header is kept exactly if its name is not marked as one about a rejection. -/
theorem isKept_iff {header : Header} :
    isKept header = true ↔ ¬ mark.toList <+: header.1.toList := by
  rw [isKept, Bool.not_eq_true', ← Bool.not_eq_true, List.isPrefixOf_iff_prefix]

/-! ## One copy -/

namespace Rejection

variable {rejection : Rejection}

/-- The letters of a rejection are what sending its letter leaves. -/
theorem letters_eq (rejection : Rejection) :
    rejection.letters =
        (Obstacle.settle (rejection.service.obstacle? .deadLetters)
          (letter rejection.service.deadLetters.topic rejection.record rejection.reason)).2
      ∧ ((send rejection.record rejection.reason).perform rejection.service).2.broker.sent =
        rejection.service.broker.sent ++ rejection.letters := by
  cases performed : (send rejection.record rejection.reason).perform rejection.service with
  | mk ending after =>
      obtain ⟨-, copied, sent, added, settled, -⟩ := perform_send performed
      have letters : rejection.letters = sent := by
        rw [Rejection.letters, performed]
        simp only [added, List.drop_left]
      rw [letters]
      exact ⟨(Prod.mk.inj settled).2, added⟩

/-- A rejection leaves at most one letter. -/
theorem eq_of_mem_letters
    {first second : Message}
    (one : first ∈ rejection.letters)
    (other : second ∈ rejection.letters) : first = second := by
  have atMostOne : rejection.letters.length ≤ 1 := by
    rw [(letters_eq rejection).1]
    exact Obstacle.length_settle_le_one _ _
  match letters : rejection.letters with
  | [] =>
      rw [letters] at one
      cases one
  | [only] =>
      rw [letters] at one other
      rw [List.mem_singleton.mp one, List.mem_singleton.mp other]
  | _ :: _ :: _ =>
      rw [letters] at atMostOne
      simp at atMostOne

end Rejection

/-- The key of a copy is that of the record exactly if reading it as a text loses nothing. -/
theorem keyBytes_key_eq_iff (record : Record) :
    Message.keyBytes (key record) = record.key ↔
      ∀ bytes ∈ record.key, bytes ≠ [] ∧ Text.IsValid bytes := by
  cases present : record.key with
  | none => simp [key, present, Message.keyBytes]
  | some bytes =>
      simp only [key, present, Option.elim_some, Message.keyBytes, Text.decodeLossy_eq_empty_iff,
        Option.mem_some_iff, forall_eq']
      by_cases empty : bytes = []
      · simp [empty]
      · simp [empty, Text.encode_decodeLossy_eq_iff]

/-- The key of a copy is valid, so that it is the key of every further copy. -/
theorem keyBytes_key_of_returned
    {record arrived : Record}
    (same : arrived.key = Message.keyBytes (key record)) :
    Message.keyBytes (key arrived) = Message.keyBytes (key record) := by
  rw [← same, keyBytes_key_eq_iff, same]
  intro bytes member
  unfold Message.keyBytes at member
  split at member
  · cases member
  · next nonempty =>
    obtain rfl := Option.mem_some_iff.mp member
    refine ⟨?_, _, rfl⟩
    intro empty
    rw [← Text.decodeLossy_eq_empty_iff, Text.decodeLossy_encode] at empty
    exact nonempty empty

/-- Only the rejection itself tells its reason. -/
theorem countP_reason_headers
    (record : Record)
    (reason : String) :
    (headers record reason).countP (fun header => header.1 = reasonHeader) = 1 := by
  have kept : (record.headerList.filter isKept).countP (fun header => header.1 = reasonHeader) =
      0 := by
    refine List.countP_eq_zero.mpr fun header member => ?_
    have unmarked := isKept_iff.mp (List.mem_filter.mp member).2
    intro named
    rw [of_decide_eq_true named] at unmarked
    exact unmarked (by decide)
  rw [headers, List.countP_append, kept]
  simp [serviceHeaders, Header.ofText, reasonHeader, topicHeader, partitionHeader, offsetHeader]

/-- Every letter of a rejection is faithful to the record. -/
theorem Rejection.faithful
    {rejection : Rejection}
    {letter : Message}
    (member : letter ∈ rejection.letters) :
    Faithful rejection.record rejection.reason letter := by
  rw [(letters_eq rejection).1] at member
  obtain ⟨acknowledged, rfl⟩ := Obstacle.eq_of_mem_settle member
  refine ⟨rfl, rfl, countP_reason_headers _ _, keyBytes_key_eq_iff _, ?_, ?_⟩
  · intro empty
    simp only [DeadLetter.letter, key, empty]
    rfl
  · intro bytes present invalid
    have replaced := (Text.isValid_or_replaced bytes).resolve_left invalid
    have same : key rejection.record = Text.decodeLossy bytes := by
      rw [key, Option.mem_def.mp present, Option.elim_some]
    refine ⟨Text.decodeLossy bytes, ?_, replaced⟩
    simp only [DeadLetter.letter, same, Message.keyBytes]
    rw [if_neg]
    intro empty
    simp [empty] at replaced

/-! ## Copies of copies -/

/-- What a letter retains of an earlier one, a further letter retains too. -/
theorem Retains.trans
    {first second third : Message}
    (earlier : Retains first second)
    (later : Retains second third) : Retains first third where
  key := later.key.trans earlier.key
  value := later.value.trans earlier.value
  headers := by
    have kept := earlier.headers.filter isKept
    simp only [List.filter_filter, Bool.and_self] at kept
    exact kept.trans later.headers

namespace Rejection

/-- A rejection leaves a letter, of which every letter of another one retains what it should. -/
structure Leads (first second : Rejection) : Prop where
  sent : ∃ letter, letter ∈ first.letters
  retains : ∀ copy ∈ first.letters, ∀ letter ∈ second.letters, Retains copy letter

/-- What comes to a third rejection through a second one comes from the first. -/
theorem Leads.trans
    {first second third : Rejection}
    (earlier : first.Leads second)
    (later : second.Leads third) : first.Leads third where
  sent := earlier.sent
  retains := by
    intro copy member letter last
    obtain ⟨between, sent⟩ := later.sent
    exact (earlier.retains copy member between sent).trans (later.retains between sent letter last)

/-- The letter of a rejection retains what it should of its record's letter. -/
theorem Follows.leads
    {first second : Rejection}
    (follows : first.Follows second) : first.Leads second := by
  obtain ⟨returned, sent, returns⟩ := follows
  refine ⟨⟨returned, sent⟩, fun copy member letter last => ?_⟩
  obtain rfl := eq_of_mem_letters sent member
  have faithful := faithful last
  refine ⟨?_, faithful.value.trans returns.value, ?_⟩
  · rw [(letters_eq first).1] at member
    rw [(letters_eq second).1] at last
    obtain ⟨_, rfl⟩ := Obstacle.eq_of_mem_settle member
    obtain ⟨_, rfl⟩ := Obstacle.eq_of_mem_settle last
    exact keyBytes_key_of_returned returns.key
  · rw [faithful.headers, Record.headerList, returns.headers]
    exact List.suffix_append _ _

end Rejection

/-- A service whose broker takes every message. -/
def rejecting : Service where
  clock := ⟨⟨⟨2025, 1, 1, isDate_firstOf2025⟩, .midnight⟩⟩

/-- A tombstone whose key is an overlong form, with headers that repeat and have no value. -/
def tombstone : Record where
  topic := "order.completed"
  partition := 2
  offset := 42
  key := some [0xC0, 0x80]
  value := none
  headers := some [("dlq_reason", none), ("trace", none), ("dlq", some [0xFF]), ("trace", none)]

/-- The dead letter of the tombstone as it is read from its topic. -/
def tombstoneAgain : Record :=
  let copy := letter rejecting.deadLetters.topic tombstone "first"
  { topic := copy.topic
    partition := 0
    offset := 7
    key := copy.key
    value := copy.value
    headers := some copy.headers }

/-- The tombstone is rejected, and so is its dead letter. -/
def rejectedTwice : List Rejection :=
  [⟨rejecting, tombstone, "first"⟩, ⟨rejecting, tombstoneAgain, "second"⟩]

end DeadLetter
end Fulfilment
