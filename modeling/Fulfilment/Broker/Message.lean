import Fulfilment.Text.Utf8

/-!
# Messages

What goes through the broker: records that were read from a topic and messages that are sent to
one.  A message is acknowledged once the broker has it for good.
-/

namespace Fulfilment

/-- A named header, whose value may be absent. -/
abbrev Header := String × Option Bytes

/-- A record read from a topic. -/
structure Record where
  topic : String
  partition : Int
  offset : Int
  key : Option Bytes
  value : Option Bytes
  headers : Option (List Header)
deriving DecidableEq, Repr

namespace Record

/-- Where a record stands. -/
def description (record : Record) : String :=
  s!"{record.topic}[{record.partition}]@{record.offset}"

/-- The key that keeps the records of a partition in order. -/
def orderKey (record : Record) : String :=
  s!"{record.topic}:{record.partition}"

/-- The headers of a record, none if they are absent. -/
def headerList (record : Record) : List Header :=
  record.headers.getD []

end Record

/-- A message sent to a topic. -/
structure Message where
  topic : String
  key : Option Bytes
  value : Option Bytes
  headers : List Header
  acknowledged : Bool
deriving DecidableEq, Repr

/-- The bytes of a message key; an empty key is none. -/
def Message.keyBytes (key : String) : Option Bytes :=
  if key = "" then none else some (Text.encode key)

/-- A header with a text for its value. -/
def Header.ofText (name value : String) : Header :=
  (name, some (Text.encode value))

end Fulfilment
