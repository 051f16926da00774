import Fulfilment.Number.Decimal
import Fulfilment.Schema.Scalar
import Fulfilment.Settings.Basic
import Fulfilment.Settings.DotEnv
import Fulfilment.Text.LowerCase

/-!
# Reading settings

Settings are read from given values, the environment and a file; the first of these that sets a
name decides, and a name that none of them sets keeps its default.  Names are told apart without
regard to case.
-/

namespace Fulfilment
namespace Schema

/-- Read a whole number as the nearest double, if there is a finite one. -/
def doubleOfInteger (number : Int) : Reading Number.Double :=
  match Number.Double.nearest (number < 0) number.natAbs 1 with
  | .finite negative mantissa exponent => .ok (.finite negative mantissa exponent)
  | .infinite _ | .nan => .issue .floatType

/-- Read a double: a number, a truth value as one or zero, or a lax spelling. -/
def double (value : Json) : Reading Number.Double :=
  match value with
  | .scalar (.real number) => .ok number
  | .scalar (.integer number) => doubleOfInteger number
  | .scalar (.bool truth) => .ok (.nearest false (if truth then 1 else 0) 1)
  | .scalar (.string text) => .ofOption .floatParsing (Number.laxDouble? text)
  | .scalar .null | .array _ | .object _ => .issue .floatType

end Schema

namespace Settings

open Schema

/-- Names that differ only in case. -/
def sameName (left right : String) : Bool :=
  Text.lowerCase left.toList == Text.lowerCase right.toList

/-- The first value under a name, whatever its case. -/
def firstValue?
    (name : String)
    (members : List (String × α)) : Option α :=
  (members.find? fun member => sameName member.1 name).map Prod.snd

/-- The last value under a name, whatever its case. -/
def lastValue?
    (name : String)
    (members : List (String × α)) : Option α :=
  firstValue? name members.reverse

/-- The value that the first source setting a name gives it, told under the name itself.  Of several
given spellings the name itself counts, or else the first. -/
def sourceValue?
    (given : List (String × Json))
    (environment : List (String × String))
    (file : Option String)
    (name : String) : Option Json :=
  let fromGiven := (given.lookup name).or (firstValue? name given)
  let fromEnvironment := (lastValue? name environment).map .string
  let fromFile :=
    (lastValue? name (file.elim [] (DotEnv.read environment))).join.map .string
  (fromGiven.or fromEnvironment).or fromFile

/-- Read one setting or keep its default. -/
def setting
    (value? : String → Option Json)
    (name : String)
    (default : α)
    (read : Json → Reading α) : Reading α :=
  match value? name with
  | some value => (read value).under name
  | none => .ok default

/-- Read all settings from a source of values. -/
def ofValues (value? : String → Option Json) : Reading Settings :=
  let standard : Settings := {}
  let text (name : String) (default : String) := setting value? name default string
  let given (name : String) (default : Option String) :=
    setting value? name default fun value => (string value).map some
  let number (name : String) (default : Int) := setting value? name default integer
  Settings.mk
    <$> text "ENV" standard.environment
    <*> given "SERVICE_NAME" standard.serviceName
    <*> text "DATABASE_URL_PROD" standard.productionDatabase
    <*> text "KAFKA_BOOTSTRAP_SERVERS_PROD" standard.productionBroker
    <*> text "DATABASE_URL_LOCAL" standard.localDatabase
    <*> text "KAFKA_BOOTSTRAP_SERVERS_LOCAL" standard.localBroker
    <*> number "DB_CONNECT_TIMEOUT_SECONDS" standard.connectTimeoutSeconds
    <*> number "DB_STATEMENT_TIMEOUT_MS" standard.statementTimeoutMilliseconds
    <*> text "ORDER_COMPLETED_TOPIC" standard.ordersTopic
    <*> text "EVENTS_TOPIC" standard.eventsTopic
    <*> text "SHIPPING_CREATED_ROUTING_KEY" standard.routingKey
    <*> text "DEAD_LETTER_TOPIC" standard.deadLetterTopic
    <*> text "CONSUMER_GROUP_ID" standard.consumerGroup
    <*> text "DLQ_CONSUMER_GROUP_ID" standard.observerGroup
    <*> number "CONSUMER_POLL_TIMEOUT_MS" standard.pollTimeoutMilliseconds
    <*> number "CONSUMER_MAX_POLL_RECORDS" standard.maxPollRecords
    <*> number "KAFKA_REQUEST_TIMEOUT_MS" standard.requestTimeoutMilliseconds
    <*> setting value? "KAFKA_PUBLISH_TIMEOUT_SECONDS" standard.publishTimeoutSeconds double
    <*> number "WORKER_POOL_SIZE" standard.workerCount
    <*> number "WORKER_QUEUE_SIZE" standard.workerQueueSize
    <*> number "UNIT_OF_WORK_CONFLICT_RETRIES" standard.conflictRetries
    <*> given "DEFAULT_SHIPPING_METHOD" standard.shippingMethod
    <*> given "DEFAULT_CARRIER" standard.carrier
    <*> text "LOG_LEVEL" standard.logLevel

/-- The settings from given values, an environment and a file. -/
def read
    (given : List (String × Json))
    (environment : List (String × String))
    (file : Option String) : Reading Settings :=
  ofValues (sourceValue? given environment file)

/-- A text that may be absent, as JSON. -/
def textOrNull (text : Option String) : Json :=
  text.elim .null .string

/-- Every setting under its name, and the database and broker of the environment. -/
def listing (settings : Settings) : List (String × Json) :=
  [("ENV", .string settings.environment),
    ("SERVICE_NAME", textOrNull settings.serviceName),
    ("DATABASE_URL_PROD", .string settings.productionDatabase),
    ("KAFKA_BOOTSTRAP_SERVERS_PROD", .string settings.productionBroker),
    ("DATABASE_URL_LOCAL", .string settings.localDatabase),
    ("KAFKA_BOOTSTRAP_SERVERS_LOCAL", .string settings.localBroker),
    ("DB_CONNECT_TIMEOUT_SECONDS", .integer settings.connectTimeoutSeconds),
    ("DB_STATEMENT_TIMEOUT_MS", .integer settings.statementTimeoutMilliseconds),
    ("ORDER_COMPLETED_TOPIC", .string settings.ordersTopic),
    ("EVENTS_TOPIC", .string settings.eventsTopic),
    ("SHIPPING_CREATED_ROUTING_KEY", .string settings.routingKey),
    ("DEAD_LETTER_TOPIC", .string settings.deadLetterTopic),
    ("CONSUMER_GROUP_ID", .string settings.consumerGroup),
    ("DLQ_CONSUMER_GROUP_ID", .string settings.observerGroup),
    ("CONSUMER_POLL_TIMEOUT_MS", .integer settings.pollTimeoutMilliseconds),
    ("CONSUMER_MAX_POLL_RECORDS", .integer settings.maxPollRecords),
    ("KAFKA_REQUEST_TIMEOUT_MS", .integer settings.requestTimeoutMilliseconds),
    ("KAFKA_PUBLISH_TIMEOUT_SECONDS", .scalar (.real settings.publishTimeoutSeconds)),
    ("WORKER_POOL_SIZE", .integer settings.workerCount),
    ("WORKER_QUEUE_SIZE", .integer settings.workerQueueSize),
    ("UNIT_OF_WORK_CONFLICT_RETRIES", .integer settings.conflictRetries),
    ("DEFAULT_SHIPPING_METHOD", textOrNull settings.shippingMethod),
    ("DEFAULT_CARRIER", textOrNull settings.carrier),
    ("LOG_LEVEL", .string settings.logLevel),
    ("DATABASE_URL", .string settings.database),
    ("KAFKA_BOOTSTRAP_SERVERS", .string settings.broker)]

end Settings
end Fulfilment
