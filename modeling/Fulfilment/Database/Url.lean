import Fulfilment.Failure
import Fulfilment.Number.Refusal
import Fulfilment.Settings.Basic
import Fulfilment.Text.Alphanumeric

/-!
# Database addresses

The address of a database names a dialect, then `://`, and then may give a user with a password,
a host with a port, a database and options.  Of these the service needs the backend, which is the
dialect up to a plus sign; a port that is given must be a number.
-/

namespace Fulfilment
namespace Database

/-- A character of the name of a dialect: a letter or number of any script, an underscore or a plus
sign. -/
def isNameCharacter (character : Char) : Bool :=
  Text.isAlphanumeric character || character = '_' || character = '+'

/-- The dialect of an address and what follows it. -/
def dialect? (characters : List Char) : Option (List Char × List Char) :=
  match characters.takeWhile isNameCharacter, characters.dropWhile isNameCharacter with
  | first :: name, ':' :: '/' :: '/' :: rest => some (first :: name, rest)
  | _, _ => none

/-- What follows the last of some characters in the part that a class of characters bounds. -/
def afterLast?
    (stops : Char → Bool)
    (last : Char)
    (characters : List Char) : Option (List Char) :=
  let part := characters.takeWhile fun c => !stops c
  match part.reverse.dropWhile (· ≠ last) with
  | [] => none
  | _ :: before => some (characters.drop (before.length + 1))

/-- What follows the user: an at sign behind a name without colons and slashes, or behind such a
name, a colon and a password. -/
def dropUser (characters : List Char) : List Char :=
  let name := characters.takeWhile fun c => c ≠ ':' && c ≠ '/'
  let withPassword :=
    match characters.drop name.length with
    | ':' :: rest =>
        match rest.dropWhile (· ≠ '@') with
        | '@' :: after => some after
        | _ => none
    | _ => none
  let alone := afterLast? (fun c => c = ':' || c = '/') '@' characters
  (withPassword.or alone).getD characters

/-- What follows the host: an address in brackets, or a name. -/
def dropHost (characters : List Char) : List Char :=
  let named := characters.dropWhile fun c => c ≠ '/' && c ≠ ':' && c ≠ '?'
  match characters with
  | '[' :: first :: rest =>
      if first = '/' ∨ first = '?' then named
      else (afterLast? (fun c => c = '/' || c = '?') ']' rest).getD named
  | _ => named

/-- The port of an address, if one is begun. -/
def port? (characters : List Char) : Option (List Char) :=
  match dropHost (dropUser characters) with
  | ':' :: rest => some (rest.takeWhile fun c => c ≠ '/' && c ≠ '?')
  | _ => none

/-- Refuse a port that is not a number. -/
def checkPort (port : Option (List Char)) : Except Failure Unit :=
  match port with
  | none => .ok ()
  | some characters =>
      let text := String.ofList characters
      match Number.ofPlainText text with
      | .ok _ => .ok ()
      | .error fault => .error (.badValue (Number.refusal text fault))

/-- The backend of an address. -/
def backend (address : String) : Except Failure String :=
  match dialect? address.toList with
  | none => .error .badUrl
  | some (name, rest) =>
      match checkPort (port? rest) with
      | .error failure => .error failure
      | .ok () => .ok (String.ofList (name.takeWhile (· ≠ '+')))

/-- How the service connects to a database.  The time limits are told to one backend only. -/
structure EngineOptions where
  checkBeforeUse : Bool := true
  limits : Option (Int × String) := none
deriving DecidableEq, Repr

/-- The backend that is told time limits. -/
def limitedBackend : String := "postgresql"

/-- How the service connects to the database of an address. -/
def engineOptions
    (settings : Settings)
    (address : String) : Except Failure EngineOptions :=
  match backend address with
  | .error failure => .error failure
  | .ok name =>
      .ok (if name = limitedBackend then
        { limits := some (settings.connectTimeoutSeconds,
            s!"-c statement_timeout={settings.statementTimeoutMilliseconds}") }
      else {})

end Database
end Fulfilment
