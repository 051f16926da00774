import Fulfilment.Text.Blank

/-!
# Files of settings

A file of settings has lines of a name, an equals sign and a value.  Values stand alone or in
quotes, which may hold escapes and line ends; comments begin with a number sign that follows a
blank or begins a line.  A value may name another variable as `$\x7bNAME\x7d`, with a default
behind `:-`.  Lines of another form are passed over, and so is a byte order mark before the first.
-/

namespace Fulfilment
namespace DotEnv

/-- A variable, without a value if the line has no equals sign. -/
abbrev Binding := String × Option String

/-- A character that ends a line. -/
def isLineEnd (character : Char) : Bool :=
  character = '\n' || character = '\r'

/-- A blank character inside a line. -/
def isInlineBlank (character : Char) : Bool :=
  Text.isBlank character && !isLineEnd character

/-- Every kind of line end as a line feed. -/
def unifyLineEnds : List Char → List Char
  | [] => []
  | '\r' :: '\n' :: rest => '\n' :: unifyLineEnds rest
  | '\r' :: rest => '\n' :: unifyLineEnds rest
  | character :: rest => character :: unifyLineEnds rest

/-- A text without the byte order mark that it may begin with. -/
def dropMark (characters : List Char) : List Char :=
  match characters with
  | '\uFEFF' :: rest => rest
  | characters => characters

/-- The content up to the closing quote and what follows it.  A backslash takes the character after
it along, so that a quote there closes nothing. -/
def closeQuote? (quote : Char) : List Char → Option (List Char × List Char)
  | [] => none
  | [last] => if last = quote then some ([], []) else none
  | first :: second :: rest =>
      if first = quote then some ([], second :: rest)
      else if first = '\\' then
        (closeQuote? quote rest).map
          fun (content, after) => (first :: second :: content, after)
      else
        (closeQuote? quote (second :: rest)).map
          fun (content, after) => (first :: content, after)

/-- The character that an escape in double quotes stands for. -/
def doubleEscape? (character : Char) : Option Char :=
  match character with
  | '\\' => some '\\'
  | '\'' => some '\''
  | '"' => some '"'
  | 'a' => some '\x07'
  | 'b' => some '\x08'
  | 'f' => some '\x0c'
  | 'n' => some '\n'
  | 'r' => some '\r'
  | 't' => some '\t'
  | 'v' => some '\x0b'
  | _ => none

/-- The character that an escape in single quotes stands for. -/
def singleEscape? (character : Char) : Option Char :=
  match character with
  | '\\' => some '\\'
  | '\'' => some '\''
  | _ => none

/-- Replace the escapes of a class; other backslashes stay. -/
def unescape (escape? : Char → Option Char) : List Char → List Char
  | [] => []
  | [last] => [last]
  | first :: second :: rest =>
      match first, escape? second with
      | '\\', some meant => meant :: unescape escape? rest
      | first, _ => first :: unescape escape? (second :: rest)

/-- Cut a comment off: a number sign behind blanks, and those blanks. -/
def dropComment : List Char → List Char
  | [] => []
  | character :: rest =>
      if Text.isBlank character
          && ((character :: rest).dropWhile Text.isBlank).head? = some '#' then []
      else character :: dropComment rest

/-- Cut the blanks off the end. -/
def dropTrailingBlanks (characters : List Char) : List Char :=
  (characters.reverse.dropWhile Text.isBlank).reverse

/-- A value without quotes, which fills its line up to a comment. -/
def bareValue (characters : List Char) : List Char × List Char :=
  let value := dropComment (characters.takeWhile fun c => !isLineEnd c)
  (dropTrailingBlanks (value.dropWhile isInlineBlank), characters.dropWhile fun c => !isLineEnd c)

/-- The value behind an equals sign and what follows it. -/
def value? (characters : List Char) : Option (List Char × List Char) :=
  match characters.dropWhile isInlineBlank with
  | '\'' :: rest =>
      (closeQuote? '\'' rest).map fun (content, rest) => (unescape singleEscape? content, rest)
  | '"' :: rest =>
      (closeQuote? '"' rest).map fun (content, rest) => (unescape doubleEscape? content, rest)
  | _ => some (bareValue characters)

/-- The name at the head of a text and what follows it; a comment has no name. -/
def name? (characters : List Char) : Option (Option (List Char) × List Char) :=
  match characters with
  | '#' :: _ => some (none, characters)
  | '\'' :: rest =>
      match rest.takeWhile (· ≠ '\''), rest.dropWhile (· ≠ '\'') with
      | first :: more, _ :: rest => some (some (first :: more), rest)
      | _, _ => none
  | characters =>
      let isName (c : Char) : Bool := c ≠ '=' && c ≠ '#' && !Text.isBlank c
      match characters.takeWhile isName with
      | [] => none
      | name => some (some name, characters.dropWhile isName)

/-- What follows the word `export` and blanks, or the whole text without it. -/
def dropExport (characters : List Char) : List Char :=
  let word := "export".toList
  if characters.take word.length = word
      ∧ ((characters.drop word.length).head?.any isInlineBlank) = true then
    (characters.drop word.length).dropWhile isInlineBlank
  else characters

/-- What follows the end of the line, if only blanks and a comment stand before it. -/
def endLine? (characters : List Char) : Option (List Char) :=
  let bare := characters.dropWhile isInlineBlank
  let rest := if bare.head? = some '#' then bare.dropWhile fun c => !isLineEnd c else bare
  match rest with
  | [] => some []
  | first :: rest => if isLineEnd first then some rest else none

/-- What follows the line, whatever it holds. -/
def skipLine (characters : List Char) : List Char :=
  (characters.dropWhile fun c => !isLineEnd c).drop 1

/-- One line, which begins with its first character that is not blank: the variable, if it is
one, and what follows. -/
def line (characters : List Char) : Option Binding × List Char :=
  let characters := dropExport characters
  match name? characters with
  | none => (none, skipLine characters)
  | some (name, rest) =>
      let rest := rest.dropWhile isInlineBlank
      let finish (value : Option (List Char)) (rest : List Char) : Option Binding × List Char :=
        match endLine? rest with
        | some next =>
            (name.map fun name => (String.ofList name, value.map String.ofList), next)
        | none => (none, skipLine rest)
      match rest with
      | '=' :: after =>
          match value? after with
          | some (value, rest) => finish (some value) rest
          | none => (none, skipLine after)
      | rest => finish none rest

/-- The variables of a text, read in at most `fuel` lines. -/
def linesFrom : Nat → List Char → List Binding
  | 0, _ => []
  | fuel + 1, characters =>
      match characters.dropWhile Text.isBlank with
      | [] => []
      | bare =>
          let (binding, rest) := line bare
          binding.toList ++ linesFrom fuel rest

/-- The value of the last variable of a name. -/
def lookup?
    (name : String)
    (bindings : List Binding) : Option (Option String) :=
  bindings.reverse.lookup name

/-- A variable named inside a value, its default, and what follows. -/
def reference? (characters : List Char) : Option (List Char × List Char × List Char) :=
  match characters with
  | '$' :: '\x7b' :: rest =>
      let name := rest.takeWhile fun c => c ≠ '\x7d' && c ≠ ':'
      match rest.dropWhile fun c => c ≠ '\x7d' && c ≠ ':' with
      | '\x7d' :: rest => some (name, [], rest)
      | ':' :: '-' :: rest =>
          match rest.dropWhile (· ≠ '\x7d') with
          | _ :: after => some (name, rest.takeWhile (· ≠ '\x7d'), after)
          | [] => none
      | _ => none
  | _ => none

/-- Put the values of named variables into a value, reading at most `fuel` characters. -/
def expandFrom (known : List Binding) : Nat → List Char → List Char
  | 0, _ => []
  | _ + 1, [] => []
  | fuel + 1, character :: rest =>
      match reference? (character :: rest) with
      | some (name, default, after) =>
          let value :=
            match lookup? (String.ofList name) known with
            | some value => (value.getD "").toList
            | none => default
          value ++ expandFrom known fuel after
      | none => character :: expandFrom known fuel rest

/-- Set a variable; one that is set already keeps its place. -/
def set
    (name : String)
    (value : Option String) : List Binding → List Binding
  | [] => [(name, value)]
  | first :: rest =>
      if first.1 = name then (name, value) :: rest else first :: set name value rest

/-- Expand the values in order; each may name the variables of the environment and those before
it, the nearest of a name first. -/
def expand (environment : List Binding) : List Binding → List Binding → List Binding
  | done, [] => done
  | done, (name, value) :: rest =>
      let known := environment ++ done
      let expanded := value.map fun text =>
        String.ofList (expandFrom known (text.length + 1) text.toList)
      expand environment (set name expanded done) rest

/-- The variables that a file sets, in the given environment: each once, in the order of their
first lines. -/
def read
    (environment : List (String × String))
    (text : String) : List Binding :=
  let characters := unifyLineEnds (dropMark text.toList)
  expand (environment.map fun (name, value) => (name, some value)) []
    (linesFrom (characters.length + 1) characters)

end DotEnv
end Fulfilment
