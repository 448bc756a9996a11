import SavingsSite.Settings.Environment
import SavingsSite.Text.Blank

set_option autoImplicit false

/-! Settings files: one assignment a line, with comments, an optional `export`, values in quotes
that may span lines, escapes, and references to other names. A line that is no assignment is
skipped. -/

namespace SavingsSite.Settings.File

open Text (isBlank)

/-- A name with the text assigned to it; a name alone on its line has no value. -/
structure Assignment where
  name : List Char
  value : Option (List Char)
  deriving DecidableEq, Repr

def unifyLines : List Char → List Char
  | [] => []
  | '\r' :: '\n' :: rest => '\n' :: unifyLines rest
  | c :: rest => (if c = '\r' then '\n' else c) :: unifyLines rest

def dropOrderMark : List Char → List Char
  | c :: rest => if c = '\uFEFF' then rest else c :: rest
  | [] => []

def isInlineBlank (c : Char) : Bool := isBlank c && c ≠ '\n'

def skipInline (input : List Char) : List Char := input.dropWhile isInlineBlank

def nextLine (input : List Char) : List Char := (input.dropWhile (· ≠ '\n')).tail

/-- The text after the word `export` and the blanks behind it, when it stands at the start. -/
def skipExport (input : List Char) : List Char :=
  if "export".toList.isPrefixOf input then
    let rest := input.drop 6
    match rest with
    | c :: _ => if isInlineBlank c then skipInline rest else input
    | [] => input
  else input

/-- The name at the start of a line, or none before a comment; fails when there is no name. -/
def readName (input : List Char) : Option (Option (List Char) × List Char) :=
  match input with
  | '#' :: _ => some (none, input)
  | '\'' :: rest =>
      let name := rest.takeWhile (· ≠ '\'')
      match name, rest.dropWhile (· ≠ '\'') with
      | _ :: _, _ :: after => some (some name, after)
      | _, _ => none
  | _ =>
      let belongs := fun c => c ≠ '=' && c ≠ '#' && !isBlank c
      match input.takeWhile belongs with
      | [] => none
      | name => some (some name, input.dropWhile belongs)

/-- A quoted text after its opening quote, up to the first `quote` that no backslash escapes, and
what follows. A backslash escapes any one character after it, another backslash too. -/
def readQuoted (quote : Char) : List Char → Option (List Char × List Char)
  | [] => none
  | '\\' :: c :: rest =>
      (readQuoted quote rest).map fun (text, after) => ('\\' :: c :: text, after)
  | c :: rest =>
      if c = quote then some ([], rest)
      else (readQuoted quote rest).map fun (text, after) => (c :: text, after)

def escaped? (c : Char) : Option Char :=
  if c = '\\' || c = '\'' || c = '"' then some c
  else if c = 'a' then some '\x07'
  else if c = 'b' then some '\x08'
  else if c = 'f' then some '\x0c'
  else if c = 'n' then some '\n'
  else if c = 'r' then some '\r'
  else if c = 't' then some '\t'
  else if c = 'v' then some '\x0b'
  else none

def escapedSingle? (c : Char) : Option Char :=
  if c = '\\' || c = '\'' then some c else none

/-- A text with its escapes resolved; `slash` says that a backslash stands before it. -/
def unescape (meaning : Char → Option Char) (slash : Bool) : List Char → List Char
  | [] => if slash then ['\\'] else []
  | c :: rest =>
      if slash then
        match meaning c with
        | some plain => plain :: unescape meaning false rest
        | none => '\\' :: c :: unescape meaning false rest
      else if c = '\\' then unescape meaning true rest
      else c :: unescape meaning false rest

def cutComment (afterBlank : Bool) : List Char → List Char
  | [] => []
  | c :: rest => if c = '#' && afterBlank then [] else c :: cutComment (isBlank c) rest

/-- The value after the equals sign. A bare value ends with its line, and a number sign that
follows a blank, also one before the value, starts a comment. -/
def readValue (input : List Char) : Option (List Char × List Char) :=
  match skipInline input with
  | '\'' :: rest =>
      (readQuoted '\'' rest).map fun (value, after) => (unescape escapedSingle? false value, after)
  | '"' :: rest =>
      (readQuoted '"' rest).map fun (value, after) => (unescape escaped? false value, after)
  | _ =>
      let line := input.takeWhile (· ≠ '\n')
      some (Text.trim isBlank (cutComment false line), input.dropWhile (· ≠ '\n'))

def endLine (input : List Char) : Option (List Char) :=
  match skipInline input with
  | [] => some []
  | '\n' :: rest => some rest
  | '#' :: rest => some (nextLine rest)
  | _ => none

def readLine (input : List Char) : Option Assignment × List Char :=
  let start := skipExport input
  match readName start with
  | none => (none, nextLine start)
  | some (name, rest) =>
      let rest := skipInline rest
      let value : Option (Option (List Char) × List Char) :=
        match rest with
        | '=' :: after =>
            (readValue after).map fun (value, last) => (some value, last)
        | _ => some (none, rest)
      match value with
      | none => (none, nextLine rest)
      | some (value, last) =>
          match endLine last with
          | none => (none, nextLine last)
          | some next => (name.map (⟨·, value⟩), next)

def readLines : Nat → List Char → List Assignment
  | 0, _ => []
  | fuel + 1, input =>
      match input.dropWhile isBlank with
      | [] => []
      | start =>
          let (assignment, rest) := readLine start
          match assignment with
          | some a => a :: readLines fuel rest
          | none => readLines fuel rest

def assignments (file : String) : List Assignment :=
  let input := unifyLines (dropOrderMark file.toList)
  readLines input.length input

/-- A reference after its opening brace: the name, its default, and what follows the reference. -/
def readReference (input : List Char) : Option (List Char × Option (List Char) × List Char) :=
  let name := input.takeWhile fun c => c ≠ '\x7d' && c ≠ ':'
  match input.drop name.length with
  | '\x7d' :: rest => some (name, none, rest)
  | ':' :: '-' :: more =>
      let default := more.takeWhile (· ≠ '\x7d')
      match more.drop default.length with
      | _ :: rest => some (name, some default, rest)
      | [] => none
  | _ => none

def referenceNames : List Char → List String
  | [] => []
  | c :: rest =>
      match c, rest with
      | '$', '\x7b' :: inner =>
          match readReference inner with
          | some (name, _, _) => String.ofList name :: referenceNames rest
          | none => referenceNames rest
      | _, _ => referenceNames rest

def references (file : String) : List String :=
  (assignments file).flatMap fun a => referenceNames (a.value.getD [])

abbrev Bindings := List (String × Option String)

def Bindings.get? (name : String) : Bindings → Option (Option String)
  | [] => none
  | (other, value) :: rest => if other = name then some value else Bindings.get? name rest

/-- What a reference stands for. An earlier name of the file hides one of the process, and the
default serves only a name that is in neither. -/
def resolve (env : Environment) (earlier : Bindings) (name : List Char)
    (default : Option (List Char)) : List Char :=
  let key := String.ofList name
  match Bindings.get? key earlier with
  | some (some value) => value.toList
  | some none => []
  | none =>
      match env.get? key with
      | some value => value.toList
      | none => default.getD []

def expand (env : Environment) (earlier : Bindings) : Nat → List Char → List Char
  | 0, input => input
  | _ + 1, [] => []
  | fuel + 1, c :: rest =>
      match c, rest with
      | '$', '\x7b' :: inner =>
          match readReference inner with
          | some (name, default, after) =>
              resolve env earlier name default ++ expand env earlier fuel after
          | none => c :: expand env earlier fuel rest
      | _, _ => c :: expand env earlier fuel rest

def bind (env : Environment) (earlier : Bindings) : List Assignment → Bindings
  | [] => earlier
  | a :: rest =>
      let value := a.value.map fun text =>
        String.ofList (expand env earlier text.length text)
      bind env ((String.ofList a.name, value) :: earlier) rest

/-- The values of a settings file under the variables of a process; the last assignment of a
name counts, and a name without a value has none. -/
def values (env : Environment) (file : String) : Bindings := bind env [] (assignments file)

def value? (bindings : Bindings) (name : String) : Option String :=
  (Bindings.get? name bindings).join

def names (bindings : Bindings) : List String := (bindings.reverse.map Prod.fst).eraseDups

end SavingsSite.Settings.File
