/-!
# Log

Every part of the service tells what it does in lines of text.
-/

namespace Fulfilment

/-- How important a log line is. -/
inductive LogLevel where
  | debug
  | info
  | warning
  | error
deriving DecidableEq, Repr

/-- The name of a level. -/
def LogLevel.name (level : LogLevel) : String :=
  match level with
  | .debug => "DEBUG"
  | .info => "INFO"
  | .warning => "WARNING"
  | .error => "ERROR"

/-- The part of the service that writes a log line. -/
inductive LogSource where
  | command
  | consumer
  | dispatch
  | pool
  | publisher
  | sequences
  | topics
  | workflow
deriving DecidableEq, Repr

/-- A line of the log. -/
structure LogLine where
  source : LogSource
  level : LogLevel
  text : String
deriving DecidableEq, Repr

end Fulfilment
