import Fulfilment.Publish.Channel

/-!
# Dead letters

A record that cannot be processed is copied to the dead-letter topic: its value as it is, and in
front of its own headers those that say why it was rejected and where it came from.  Headers that
an earlier rejection wrote are not kept.
-/

namespace Fulfilment
namespace DeadLetter

open Fulfilment.Action Fulfilment.Change

/-- What the names of the headers that a rejection writes about itself begin with. -/
def mark : String := "dlq_"

/-- The header that says why a record was rejected. -/
def reasonHeader : String := "dlq_reason"

/-- The header that says from which topic a record came. -/
def topicHeader : String := "original_topic"

/-- The header that says from which partition a record came. -/
def partitionHeader : String := "original_partition"

/-- The header that says at which offset a record stood. -/
def offsetHeader : String := "original_offset"

/-- The headers about a rejection and the record's origin. -/
def serviceHeaders
    (record : Record)
    (reason : String) : List Header :=
  [Header.ofText reasonHeader reason,
    Header.ofText topicHeader record.topic,
    Header.ofText partitionHeader (toString record.partition),
    Header.ofText offsetHeader (toString record.offset)]

/-- A header that is kept. -/
def isKept (header : Header) : Bool :=
  !mark.toList.isPrefixOf header.1.toList

/-- The headers of the copy. -/
def headers
    (record : Record)
    (reason : String) : List Header :=
  serviceHeaders record reason ++ record.headerList.filter isKept

/-- The key of the copy: that of the record as a text, none if it is absent or empty. -/
def key (record : Record) : String :=
  record.key.elim "" Text.decodeLossy

/-- The error of a dead letter that the broker did not take; other failures stay as they are. -/
def failure
    (topic : String)
    (cause : Failure) : Failure :=
  match cause with
  | .broker error => .service (.deadLetter topic error.message)
  | cause => cause

/-- Copy a record to the dead-letter topic. -/
def send
    (record : Record)
    (reason : String) : Action Unit := do
  let topic := (← get).deadLetters.topic
  let sending := Channel.deadLetters.send (key record) record.value (headers record reason)
  match ← attempt sending with
  | .ok () => return
  | .error cause => fail (failure topic cause)

end DeadLetter
end Fulfilment
