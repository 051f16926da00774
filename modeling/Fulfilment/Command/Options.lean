import Fulfilment.Broker.Topics
import Fulfilment.Number.Integer

/-!
# Options of the topics command

The command takes two options with a number and a request for help.  An option is named in full
or by the beginning of its name, its value follows behind an equals sign or as the next argument,
and the last of repeated options counts.  A separator behind an equals sign leaves the number open.
-/

namespace Fulfilment
namespace Command

/-- The options of the topics command.  A number may be left open. -/
structure Options where
  partitions : Option Int := some Topic.standardPartitions
  replication : Option Int := some Topic.standardReplication
deriving DecidableEq, Repr

/-- An option by its meaning. -/
inductive Switch where
  | help
  | partitions
  | replication
deriving DecidableEq, Repr

/-- The long names of the options. -/
def longNames : List (String × Switch) :=
  [("--help", .help), ("--partitions", .partitions), ("--replication-factor", .replication)]

/-- What the command line asks for. -/
inductive Request where
  | run (options : Options)
  | help
  | misuse
deriving DecidableEq, Repr

/-- What a single argument is, taken by itself. -/
inductive Argument where
  | value (text : String)
  | separator
  | switch (switch : Switch) (attached : Option String)
  | unknown
  | ambiguous
deriving DecidableEq, Repr

/-- A negative number, which is a value.  It may end its line. -/
def isNegativeNumber (characters : List Char) : Bool :=
  let characters :=
    if characters.getLast? = some '\n' then characters.dropLast else characters
  match characters with
  | '-' :: body =>
      let isDigit (c : Char) : Bool := (Text.decimalValue? c).isSome
      match body.dropWhile isDigit with
      | [] => body ≠ []
      | '.' :: fraction => fraction ≠ [] && fraction.all isDigit
      | _ => false
  | _ => false

/-- The options whose long names begin with some characters. -/
def matching (characters : List Char) : List Switch :=
  (longNames.filter fun entry => characters.isPrefixOf entry.1.toList).map Prod.snd

/-- The options with exactly that long name. -/
def exactly (characters : List Char) : List Switch :=
  (longNames.filter fun entry => entry.1.toList = characters).map Prod.snd

/-- An argument that begins with two hyphens and more. -/
def longArgument (characters : List Char) : Argument :=
  let name := characters.takeWhile (· ≠ '=')
  let attached :=
    match characters.dropWhile (· ≠ '=') with
    | [] => none
    | _ :: value => some (String.ofList value)
  match exactly name, matching name with
  | switch :: _, _ => .switch switch attached
  | [], [switch] => .switch switch attached
  | [], _ :: _ :: _ => .ambiguous
  | [], [] => if characters.contains ' ' then .value (String.ofList characters) else .unknown

/-- Whether some characters may follow the short request for help: further such requests, the
first of them perhaps behind an equals sign. -/
def mayFollowHelp (characters : List Char) : Bool :=
  match characters with
  | '=' :: repeated => repeated ≠ [] && repeated.all (· = 'h')
  | repeated => repeated.all (· = 'h')

/-- The argument that parts the options from the values. -/
def separator : String := "--"

/-- What an argument is. -/
def argument (text : String) : Argument :=
  match text.toList with
  | '-' :: '-' :: [] => .separator
  | '-' :: '-' :: rest => longArgument ('-' :: '-' :: rest)
  | ['-'] => .value text
  | '-' :: 'h' :: rest =>
      .switch .help (if mayFollowHelp rest then none else some (String.ofList rest))
  | '-' :: rest =>
      if isNegativeNumber ('-' :: rest) || rest.contains ' ' then .value text else .unknown
  | _ => .value text

/-- The number of an option: that of the next argument, which is a value. -/
def followingNumber? (value : String) : Option (Option Int) :=
  match Number.ofPlainText value with
  | .ok number => some (some number)
  | .error _ => none

/-- The number of an option that is attached to it.  A separator leaves it open. -/
def attachedNumber? (value : String) : Option (Option Int) :=
  if value = separator then some none else followingNumber? value

/-- Set the option of a switch. -/
def Options.set
    (options : Options)
    (switch : Switch)
    (value : Option Int) : Options :=
  match switch with
  | .help => options
  | .partitions => { options with partitions := value }
  | .replication => { options with replication := value }

/-- Read arguments in order; the flag tells whether one before was out of place. -/
def readFrom : Options → Bool → List Argument → Request
  | options, misplaced, [] => if misplaced then .misuse else .run options
  | _, _, .separator :: _ => .misuse
  | options, _, .value _ :: rest => readFrom options true rest
  | options, _, .unknown :: rest => readFrom options true rest
  | _, _, .ambiguous :: _ => .misuse
  | _, _, .switch .help attached :: _ => if attached.isSome then .misuse else .help
  | options, misplaced, .switch switch (some value) :: rest =>
      match attachedNumber? value with
      | some number => readFrom (options.set switch number) misplaced rest
      | none => .misuse
  | options, misplaced, .switch switch none :: .value value :: rest =>
      match followingNumber? value with
      | some number => readFrom (options.set switch number) misplaced rest
      | none => .misuse
  | _, _, .switch _ none :: _ => .misuse

/-- What a command line asks for. -/
def read (arguments : List String) : Request :=
  let arguments := arguments.map argument
  let options := arguments.takeWhile (· ≠ .separator)
  if options.contains .ambiguous then .misuse else readFrom {} false arguments

end Command
end Fulfilment
