import Fulfilment.Failure
import Fulfilment.Host.Name
import Fulfilment.Number.Refusal

/-!
# Targets of requests

A target is a reference: it may name a scheme and an authority, which is a host with a user and a
port, then gives a path, and may end in a query and a fragment.  Only an absolute target, one with a
scheme and a host, is sent where it says; any other hangs below the root of the service.  Of the
path the dot segments are taken out, and its percent escapes are decoded twice.
-/

namespace Fulfilment
namespace Api

/-- Why a target cannot be used. -/
inductive TargetFault where
  | tooLong
  | control (character : Char) (position : Nat)
  | badHost (fault : Host.Fault) (host : List Char)
  | badPort (port : List Char)
  | doubleSlash
  | colon
  | partTooLong (part : String)
  | controlInFragment (character : Char) (position : Nat)
  | unknownScheme (scheme : List Char)
  | bracketedHost (behindColon : List Char)
deriving DecidableEq, Repr

/-- A text in quotes, as messages show it. -/
def shown (characters : List Char) : String :=
  String.ofList (Text.quoted (String.ofList characters))

/-- What is wrong with a target. -/
def TargetFault.message (fault : TargetFault) : String :=
  match fault with
  | .tooLong => "URL too long"
  | .control character position =>
      s!"Invalid non-printable ASCII character in URL, {shown [character]} at position {position}."
  | .badHost fault host => fault.message host
  | .badPort port => s!"Invalid port: {shown port}"
  | .doubleSlash => "Relative URLs cannot have a path starting with '//'"
  | .colon => "Relative URLs cannot have a path starting with ':'"
  | .partTooLong part => s!"URL component '{part}' too long"
  | .controlInFragment character position =>
      "Invalid non-printable ASCII character in URL fragment component, "
        ++ s!"{shown [character]} at position {position}."
  | .unknownScheme scheme => shown scheme
  | .bracketedHost behindColon => Number.refusal (String.ofList behindColon) .form

/-- The failure of a request whose target cannot be used. -/
def TargetFault.toFailure (fault : TargetFault) : Failure :=
  match fault with
  | .unknownScheme _ => .missing fault.message
  | .bracketedHost _ => .badValue fault.message
  | _ => .badTarget fault.message

/-- A target by its parts.  Parts that are not given are empty, but for the query. -/
structure Target where
  scheme : List Char := []
  user : List Char := []
  host : List Char := []
  port : List Char := []
  path : List Char := []
  query : Option (List Char) := none
  fragment : List Char := []
deriving DecidableEq, Repr

namespace Target

/-- A character of a scheme. -/
def isSchemeCharacter (character : Char) : Bool :=
  character.isAlphanum || character = '+' || character = '.' || character = '-'

/-- The scheme before a colon and what follows it, if a target begins with one.  It begins with a
letter, or is empty. -/
def scheme? (characters : List Char) : Option (List Char × List Char) :=
  let name := characters.takeWhile isSchemeCharacter
  match characters.dropWhile isSchemeCharacter with
  | ':' :: rest => if name.head?.all Char.isAlpha then some (name, rest) else none
  | _ => none

/-- A text up to the last of a character, and what follows it. -/
def splitLast?
    (last : Char)
    (characters : List Char) : Option (List Char × List Char) :=
  let after := (characters.reverse.takeWhile (· ≠ last)).reverse
  if characters.contains last then
    some ((characters.take (characters.length - after.length)).dropLast, after)
  else none

/-- The host of an authority without its user, in brackets or up to a colon, and what follows it. -/
def splitHost (characters : List Char) : List Char × List Char :=
  let named := (characters.takeWhile (· ≠ ':'), characters.dropWhile (· ≠ ':'))
  if characters.head? = some '[' then
    (splitLast? ']' characters).elim named fun (host, rest) => (host ++ [']'], rest)
  else named

/-- Set the parts of an authority. -/
def withAuthority
    (target : Target)
    (authority : List Char) : Target :=
  let (user, rest) := (splitLast? '@' authority).getD ([], authority)
  let (host, rest) := splitHost rest
  { target with user, host, port := if rest.head? = some ':' then rest.tail else rest }

/-- The parts of a text. -/
def ofText (characters : List Char) : Target :=
  let (scheme, rest) := (scheme? characters).getD ([], characters)
  let fragment := (rest.dropWhile (· ≠ '#')).tail
  let rest := rest.takeWhile (· ≠ '#')
  let query :=
    match rest.dropWhile (· ≠ '?') with
    | [] => none
    | _ :: query => some query
  match rest.takeWhile (· ≠ '?') with
  | '/' :: '/' :: rest =>
      let path := rest.dropWhile (· ≠ '/')
      ({ scheme, path, query, fragment } : Target).withAuthority (rest.takeWhile (· ≠ '/'))
  | path => { scheme, path, query, fragment }

/-- The ports that need not be told, by the schemes that have them. -/
def standardPorts : List (String × Int) :=
  [("ftp", 21), ("http", 80), ("https", 443), ("ws", 80), ("wss", 443)]

/-- The schemes that a request can be sent by. -/
def knownSchemes : List String := ["http", "ws", "https", "wss"]

/-- The port that a target tells, unless it is that of the scheme. -/
def port? (target : Target) : Except TargetFault (Option Int) :=
  if target.port = [] then .ok none
  else
    match Number.ofPlainText (String.ofList target.port) with
    | .ok port =>
        .ok (if standardPorts.lookup (String.ofList target.scheme) = some port then none
          else some port)
    | .error _ => .error (.badPort target.port)

/-- A target that has both a scheme and a host. -/
def isAbsolute (target : Target) : Bool :=
  target.scheme ≠ [] && target.host ≠ []

/-- A target that is a bare path, without a scheme, a user, a host and a port. -/
def isBare
    (target : Target)
    (port : Option Int) : Bool :=
  target.scheme = [] && target.user = [] && target.host = [] && port = none

/-- Refuse a bare path that would be read as something else. -/
def checkBare (path : List Char) : Except TargetFault Unit :=
  match path with
  | '/' :: '/' :: _ => .error .doubleSlash
  | ':' :: _ => .error .colon
  | _ => .ok ()

/-- Take out the segments of one dot, and those of two dots with the segment before them. -/
def dropDots (segments : List (List Char)) : List (List Char) :=
  segments.foldl
    (fun kept segment =>
      if segment = ['.'] then kept
      else if segment = ['.', '.'] then if kept = [[]] then kept else kept.dropLast
      else kept ++ [segment])
    []

/-- A path without dot segments. -/
def normalized (path : List Char) : List Char :=
  ['/'].intercalate (dropDots (Text.fields (· = '/') path))

end Target

/-- The most characters of a target, and of each of its parts. -/
def longestTarget : Nat := 65536

/-- A control character of ASCII. -/
def isControl (character : Char) : Bool :=
  character.toNat < 0x20 || character.toNat = 0x7F

/-- The first control character of a text and its position. -/
def control? (characters : List Char) : Option (Char × Nat) :=
  (characters.find? isControl).map fun character => (character, characters.idxOf character)

/-- Refuse a target that is too long or holds a control character. -/
def checkCharacters (characters : List Char) : Except TargetFault Unit :=
  if longestTarget < characters.length then .error .tooLong
  else
    match control? characters with
    | some (character, position) => .error (.control character position)
    | none => .ok ()

/-- How many characters a text has when those that a class does not have are escaped by bytes.
Escapes in it are kept. -/
def escapedLength (stays : Char → Bool) : List Char → Nat
  | [] => 0
  | character :: rest =>
      escapedLength stays rest
        + if stays character then 1 else 3 * (Text.encodeChars [character]).length

/-- A character that a query has without an escape. -/
def staysInQuery (character : Char) : Bool :=
  0x20 < character.toNat && character.toNat < 0x7F
    && character ≠ '"' && character ≠ '#' && character ≠ '<' && character ≠ '>'

/-- A character that a path has without an escape. -/
def staysInPath (character : Char) : Bool :=
  staysInQuery character
    && character ≠ '?' && character ≠ '`' && character ≠ '\x7b' && character ≠ '\x7d'

/-- The bytes of a text with its percent escapes decoded. -/
def unescapedBytes : List Char → Bytes
  | '%' :: first :: second :: rest =>
      match Text.hexValue? first, Text.hexValue? second with
      | some upper, some lower =>
          UInt8.ofNat (upper.val * 16 + lower.val) :: unescapedBytes rest
      | _, _ => Text.encodeChars ['%'] ++ unescapedBytes (first :: second :: rest)
  | character :: rest => Text.encodeChars [character] ++ unescapedBytes rest
  | [] => []

/-- A text with its percent escapes decoded. -/
def unescape (characters : List Char) : List Char :=
  (Text.decodeLossy (unescapedBytes characters)).toList

/-- A path with its percent escapes decoded, those of the decoded path again. -/
def decodedPath (path : List Char) : List Char :=
  unescape (unescape (if path = [] then ['/'] else path))

/-- Where a request goes: a path of the service, and the fragment that a redirection keeps. -/
structure Destination where
  path : List Char
  fragment : List Char := []
deriving DecidableEq, Repr

namespace Target

/-- Refuse an absolute target that cannot be sent where it says: its scheme must be known.  The port
is looked for behind the first colon, which a host in brackets has in it. -/
def checkAbsolute
    (target : Target)
    (port : Option Int) : Except TargetFault Unit :=
  let scheme := Text.lowerCase target.scheme
  let told := port.elim [] fun port => ':' :: Number.integerText port
  if !knownSchemes.contains (String.ofList scheme) then .error (.unknownScheme scheme)
  else if (Host.bracketed? target.host).isSome then
    .error (.bracketedHost ((target.host.dropWhile (· ≠ ':')).tail ++ told))
  else .ok ()

/-- Refuse parts that are too long to hang below the root. -/
def checkLengths
    (path : List Char)
    (query : Option (List Char)) : Except TargetFault Unit :=
  if longestTarget < escapedLength staysInPath path then .error (.partTooLong "path")
  else if longestTarget < query.elim 0 (escapedLength staysInQuery) then
    .error (.partTooLong "query")
  else .ok ()

/-- Where a target leads.  A path that is not bare loses its dot segments before it is put below the
root. -/
def destination (target : Target) : Except TargetFault Destination := do
  (Host.check target.host).mapError fun fault => .badHost fault target.host
  let port ← target.port?
  let isBare := target.isBare port
  if isBare then checkBare target.path
  let path := if isBare then target.path else normalized target.path
  if target.isAbsolute then
    target.checkAbsolute port
    return ⟨decodedPath path, unescape target.fragment⟩
  let rooted := '/' :: path.dropWhile (· = '/')
  checkLengths rooted target.query
  return ⟨decodedPath (normalized rooted), []⟩

end Target

/-- Where the target of a request leads. -/
def destination (target : String) : Except TargetFault Destination := do
  checkCharacters target.toList
  (Target.ofText target.toList).destination

/-- Refuse to be redirected with a fragment that holds a control character. -/
def Destination.checkFragment (destination : Destination) : Except TargetFault Unit :=
  match control? destination.fragment with
  | some (character, position) => .error (.controlInFragment character position)
  | none => .ok ()

end Api
end Fulfilment
