import Fulfilment.Event.Decode

/-!
# Failures

Everything that can end an operation, by cause.  A failure has a kind and a message, and the
service's own errors also a code and details.  An interrupt is a failure that no handler catches.
-/

namespace Fulfilment

/-- The service's own errors.  What an error is made with may be absent. -/
inductive ServiceError where
  | general (statement code : Option String) (details : List (String × Json))
  | codec (statement code : Option String) (details : List (String × Json))
  | undecodable (statement : Option String) (details : List (String × Json))
  | shapeMismatch (name : Option String) (version : Option Int)
  | publish (topic reason : Option String)
  | deadLetter (topic reason : Option String)
  | sequence (key reason : Option String)
deriving Repr

namespace ServiceError

/-- The code of an error that names none. -/
def defaultCode : String := "SHIPPING_ERROR"

/-- The code of a codec error that names none. -/
def defaultCodecCode : String := "CODEC_ERROR"

/-- The kinds of an error, from the most special to the most general. -/
def kinds (error : ServiceError) : List String :=
  match error with
  | .general _ _ _ => ["ShippingServiceError", "Exception"]
  | .codec _ _ _ => ["EventCodecError", "ShippingServiceError", "Exception"]
  | .undecodable _ _ =>
      ["EventDecodeError", "EventCodecError", "ShippingServiceError", "Exception"]
  | .shapeMismatch _ _ =>
      ["EventShapeMismatch", "EventCodecError", "ShippingServiceError", "Exception"]
  | .publish _ _ => ["EventPublishError", "ShippingServiceError", "Exception"]
  | .deadLetter _ _ => ["DeadLetterError", "ShippingServiceError", "Exception"]
  | .sequence _ _ => ["SequenceAllocationError", "ShippingServiceError", "Exception"]

/-- The most special kind of an error. -/
def kind (error : ServiceError) : String :=
  error.kinds.headD "Exception"

/-- The text of an absent part of a message. -/
def absent : String := "None"

/-- The text of a part of a message. -/
def part [ToString α] (value : Option α) : String :=
  value.elim absent toString

/-- The message that an error carries. -/
def statement (error : ServiceError) : Option String :=
  match error with
  | .general statement _ _ | .codec statement _ _ | .undecodable statement _ => statement
  | .shapeMismatch name version => s!"Unexpected event shape {part name} v{part version}"
  | .publish topic reason => s!"Failed to publish to {part topic}: {part reason}"
  | .deadLetter topic reason => s!"Failed to dead-letter message to {part topic}: {part reason}"
  | .sequence key reason => s!"Cannot allocate sequence for '{part key}': {part reason}"

/-- What an error says. -/
def message (error : ServiceError) : String :=
  part error.statement

/-- The code of an error. -/
def code (error : ServiceError) : Option String :=
  match error with
  | .general _ code _ | .codec _ code _ => code
  | .undecodable _ _ => "EVENT_DECODE_ERROR"
  | .shapeMismatch _ _ => "EVENT_SHAPE_MISMATCH"
  | .publish _ _ => "EVENT_PUBLISH_FAILED"
  | .deadLetter _ _ => "DEAD_LETTER_FAILED"
  | .sequence _ _ => "SEQUENCE_ALLOCATION_FAILED"

/-- What an error is about, beside its message. -/
def attributes (error : ServiceError) : List (String × Json) :=
  match error with
  | .general _ _ _ | .codec _ _ _ | .undecodable _ _ => []
  | .shapeMismatch name version =>
      [("event_name", name.elim .null .string), ("event_version", version.elim .null .integer)]
  | .publish topic _ | .deadLetter topic _ => [("topic", topic.elim .null .string)]
  | .sequence key _ => [("partition_key", key.elim .null .string)]

/-- The details of an error: those it was made with, or what it is about. -/
def details (error : ServiceError) : List (String × Json) :=
  match error with
  | .general _ _ details | .codec _ _ details | .undecodable _ details => details
  | .shapeMismatch _ _ | .publish _ _ | .deadLetter _ _ | .sequence _ _ => error.attributes

end ServiceError

/-- An error told by the broker, or met on the way to it. -/
structure BrokerError where
  name : String
  detail : String := ""
deriving DecidableEq, Repr

namespace BrokerError

/-- The numbers of the errors that the broker answers with. -/
def numbers : List (String × Nat) :=
  [("MessageSizeTooLargeError", 10), ("TopicAlreadyExistsError", 36),
    ("NotLeaderForPartitionError", 6), ("InvalidReplicationFactorError", 38)]

/-- A topic of that name already exists. -/
def topicExists (error : BrokerError) : Bool :=
  error.name == "TopicAlreadyExistsError"

/-- What a failed commit of offsets says unless told otherwise. -/
def rebalanced : String :=
  "Commit cannot be completed since the group has already rebalanced and assigned the partitions "
    ++ "to another member."

/-- What an error says of itself.  An empty detail is none. -/
def remark (error : BrokerError) : String :=
  if error.detail ≠ "" then error.detail
  else if error.name = "CommitFailedError" then rebalanced
  else ""

/-- What a broker error says. -/
def message (error : BrokerError) : String :=
  let number := (numbers.lookup error.name).elim "" fun number => s!"[Error {number}] "
  let remark := if error.remark = "" then "" else s!": {error.remark}"
  s!"{number}{error.name}{remark}"

end BrokerError

/-- A column of a table. -/
structure Column where
  table : String
  name : String
deriving DecidableEq, Repr

/-- What can go wrong in the store. -/
inductive StoreError where
  /-- A column that must be given was not. -/
  | absent (column : Column)
  /-- A value that must be unique is already there. -/
  | taken (column : Column)
  /-- A number does not fit into a column. -/
  | tooLarge
  /-- A conflict told from outside. -/
  | conflict (detail : String)
  /-- An operational fault told from outside. -/
  | operational (detail : String)
  /-- Any other fault told from outside. -/
  | other (detail : String)
  /-- The session waits for a rollback after an error with the given message. -/
  | awaitingRollback (cause : String)
deriving DecidableEq, Repr

namespace StoreError

/-- The kind of a store error. -/
def kind (error : StoreError) : String :=
  match error with
  | .absent _ | .taken _ | .conflict _ => "IntegrityError"
  | .tooLarge => "OverflowError"
  | .operational _ => "OperationalError"
  | .other _ => "SQLAlchemyError"
  | .awaitingRollback _ => "PendingRollbackError"

/-- What a store error says. -/
def message (error : StoreError) : String :=
  match error with
  | .absent column =>
      s!"(sqlite3.IntegrityError) NOT NULL constraint failed: {column.table}.{column.name}"
  | .taken column =>
      s!"(sqlite3.IntegrityError) UNIQUE constraint failed: {column.table}.{column.name}"
  | .tooLarge => "Python int too large to convert to SQLite INTEGER"
  | .conflict detail | .operational detail => s!"(sqlite3.Error) {detail}"
  | .other detail => if detail = "" then "()" else detail
  | .awaitingRollback cause =>
      "This Session's transaction has been rolled back due to a previous exception during flush. "
        ++ "To begin a new transaction with this Session, first issue Session.rollback(). "
        ++ s!"Original exception was: {cause}"

end StoreError

/-- What ends an operation. -/
inductive Failure where
  | service (error : ServiceError)
  | validation (model : String) (issues : List Schema.Issue)
  | outOfCalendar
  | store (error : StoreError)
  | broker (error : BrokerError)
  | badValue (message : String)
  | badState (message : String)
  | badUrl
  | badTarget (message : String)
  | missing (message : String)
  | interrupt (message : String)
deriving Repr

namespace Failure

/-- The kind of a failure. -/
def kind (failure : Failure) : String :=
  match failure with
  | .service error => error.kind
  | .validation _ _ => "ValidationError"
  | .outOfCalendar => "OverflowError"
  | .store error => error.kind
  | .broker error => error.name
  | .badValue _ => "ValueError"
  | .badState _ => "RuntimeError"
  | .badUrl => "ArgumentError"
  | .badTarget _ => "InvalidURL"
  | .missing _ => "KeyError"
  | .interrupt _ => "KeyboardInterrupt"

/-- What a failure says. -/
def message (failure : Failure) : String :=
  match failure with
  | .service error => error.message
  | .validation model issues =>
      let plural := if issues.length = 1 then "" else "s"
      s!"{issues.length} validation error{plural} for {model}"
  | .outOfCalendar => "date value out of range"
  | .store error => error.message
  | .broker error => error.message
  | .badValue message | .badState message | .badTarget message | .missing message
  | .interrupt message => message
  | .badUrl => "Could not parse SQLAlchemy URL from given URL string"

/-- The issues of a failed validation, as details. -/
def issueDetails (issues : List Schema.Issue) : List (String × Json) :=
  [("errors", .array (issues.map fun issue =>
    .object [("type", .string issue.kind.code), ("loc", .array (issue.path.map .string))]))]

/-- The code of a failure that has one. -/
def code? (failure : Failure) : Option String :=
  match failure with
  | .service error => error.code
  | _ => none

/-- The details of a failure that has them. -/
def details? (failure : Failure) : Option (List (String × Json)) :=
  match failure with
  | .service error => some error.details
  | .validation _ issues => some (issueDetails issues)
  | _ => none

/-- An interrupt, which no handler catches. -/
def isInterrupt (failure : Failure) : Bool :=
  match failure with
  | .interrupt _ => true
  | _ => false

/-- A conflict with what the store holds. -/
def isConflict (failure : Failure) : Bool :=
  match failure with
  | .store (.absent _) | .store (.taken _) | .store (.conflict _) => true
  | _ => false

/-- A failure with its kind in front. -/
def description (failure : Failure) : String :=
  s!"{failure.kind}: {failure.message}"

end Failure

/-- The failure of a body that is no event of the wanted type. -/
def DecodeError.toFailure (error : DecodeError) : Failure :=
  match error with
  | .malformed issues =>
      .service (.undecodable s!"Malformed envelope: {issues.length} validation error(s)"
        (Failure.issueDetails issues))
  | .shapeMismatch name version => .service (.shapeMismatch (some name) (some version))
  | .invalid name version issues =>
      .service (.undecodable
        s!"Invalid {name} v{version} envelope: {issues.length} validation error(s)"
        (Failure.issueDetails issues))
  | .outOfCalendar => .outOfCalendar

end Fulfilment
