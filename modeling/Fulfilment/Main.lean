import Fulfilment.Command.CreateTopics
import Fulfilment.Settings.Read

/-!
# The topics command line

The topics command against a broker that is told.  The settings come from the environment, the
topics that the broker has from standard input, one a line.  The topics that the command asks for
are written to standard output, each with its partitions and replicas, and the log to the standard
error output.
-/

namespace Fulfilment
namespace Command

/-- How the command is called. -/
def usage : String :=
  "usage: topics [-h] [--partitions COUNT] [--replication-factor COUNT]"

/-- A line of the log as it is shown. -/
def shownLine (line : LogLine) : String :=
  s!"[{line.level.name}] {line.text}"

/-- A count as it is shown. -/
def shownCount (count : Option Int) : String :=
  count.elim "open" toString

/-- A topic as it is shown. -/
def shownTopic (topic : Topic) : String :=
  s!"{topic.name} {shownCount topic.partitions} {shownCount topic.replication}"

/-- The variables of the environment that name a setting. -/
def environmentVariables : IO (List (String × String)) :=
  (Settings.listing {}).filterMapM fun (name, _) => do
    return (← IO.getEnv name).map fun value => (name, value)

/-- The lines of a stream until it ends, without their line ends. -/
partial def readLines (stream : IO.FS.Stream) : IO (List String) := do
  let line ← stream.getLine
  if line.isEmpty then return []
  return line.trimAscii.toString :: (← readLines stream)

/-- Show what came of the command: its exit code. -/
def showReport (report : Report) : IO UInt32 := do
  for line in report.provisioning.log do
    IO.eprintln (shownLine line)
  for topic in report.provisioning.broker.asked do
    IO.println (shownTopic topic)
  match report.ending with
  | .exit code => return code.toUInt32
  | .escaped failure =>
      IO.eprintln failure.description
      return 1

/-- Carry out what the command line asks for. -/
def perform
    (settings : Settings)
    (arguments : List String) : IO UInt32 := do
  match read arguments with
  | .help =>
      IO.println usage
      return helpCode.toUInt32
  | .misuse =>
      IO.eprintln usage
      return misuseCode.toUInt32
  | .run options =>
      let existing ← readLines (← IO.getStdin)
      showReport (createTopics settings options { existing } none)

end Command
end Fulfilment

/-- Run the topics command with the settings of the environment. -/
def main (arguments : List String) : IO UInt32 := do
  match Fulfilment.Settings.read [] (← Fulfilment.Command.environmentVariables) none with
  | .ok settings => Fulfilment.Command.perform settings arguments
  | .invalid issues =>
      IO.eprintln (Fulfilment.Failure.validation "Settings" issues).description
      return 1
  | .outOfCalendar =>
      IO.eprintln Fulfilment.Failure.outOfCalendar.description
      return 1
