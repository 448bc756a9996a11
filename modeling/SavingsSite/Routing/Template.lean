import SavingsSite.Routing.Parameter
import SavingsSite.Text.Sorted

set_option autoImplicit false

/-! Path templates: characters that stand for themselves, and parameters in braces. A template
that does not start with a slash names a host, and its last characters end at a colon. -/

namespace SavingsSite.Routing

inductive Part where
  | char (c : Char)
  | parameter (name : String) (kind : ParamKind)
  deriving DecidableEq, Repr

abbrev Template := List Part

inductive TemplateFault where
  | unknownKind (name : String)
  | duplicateNames (names : List String) (path : String)
  deriving DecidableEq, Repr

def TemplateFault.message : TemplateFault → String
  | unknownKind name => "Unknown path convertor '" ++ name ++ "'"
  | duplicateNames names path =>
      "Duplicated param name" ++ (if 1 < names.length then "s" else "") ++ " " ++
        ", ".intercalate names ++ " at path " ++ path

def isNameStart (c : Char) : Bool := c.isAlpha || c = '_'

def isNamePart (c : Char) : Bool := c.isAlphanum || c = '_'

def readName? (input : List Char) : Option (List Char × List Char) :=
  match input with
  | c :: rest =>
      if isNameStart c then some (c :: rest.takeWhile isNamePart, rest.dropWhile isNamePart)
      else none
  | [] => none

/-- The name of a parameter and of its kind after the opening brace, and what follows. -/
def readParameter? (input : List Char) : Option (List Char × List Char × List Char) :=
  match readName? input with
  | some (name, '\x7d' :: rest) => some (name, "str".toList, rest)
  | some (name, ':' :: more) =>
      match readName? more with
      | some (kind, '\x7d' :: rest) => some (name, kind, rest)
      | _ => none
  | _ => none

/-- The parts of a template up to its end or its first unknown kind; `fuel` bounds its length. -/
def readParts : Nat → List Char → Except TemplateFault Template
  | 0, _ => .ok []
  | _ + 1, [] => .ok []
  | fuel + 1, c :: rest =>
      match if c = '\x7b' then readParameter? rest else none with
      | some (name, kindName, after) =>
          match ParamKind.ofName? kindName with
          | none => .error (.unknownKind (String.ofList kindName))
          | some kind =>
              (readParts fuel after).map (.parameter (String.ofList name) kind :: ·)
      | none => (readParts fuel rest).map (.char c :: ·)

namespace Template

def names (t : Template) : List String :=
  t.filterMap fun
    | .parameter name _ => some name
    | .char _ => none

def repeatedNames (t : Template) : List String :=
  Text.sortedStrings (t.names.filter fun name => 1 < t.names.count name)

def cutAtColon : Template → Template
  | [] => []
  | .char c :: rest =>
      if c = ':' && (names rest).isEmpty then [] else .char c :: cutAtColon rest
  | part :: rest => part :: cutAtColon rest

def ofPath (path : String) : Except TemplateFault Template :=
  let chars := path.toList
  match readParts chars.length chars with
  | .error fault => .error fault
  | .ok t =>
      if !t.repeatedNames.isEmpty then .error (.duplicateNames t.repeatedNames path)
      else if chars.head? = some '/' then .ok t
      else .ok t.cutAtColon

structure Capture where
  name : String
  kind : ParamKind
  taken : List Char
  deriving DecidableEq, Repr

/-- How a path fits a template: parameters take as much as they can from the left, and one line
end may follow. -/
def captures? : Template → List Char → Option (List Capture)
  | [], rest => if rest = [] || rest = ['\n'] then some [] else none
  | .char c :: parts, input =>
      match input with
      | d :: rest => if d = c then captures? parts rest else none
      | [] => none
  | .parameter name kind :: parts, input =>
      (kind.lengths input).findSome? fun n =>
        (captures? parts (input.drop n)).map (⟨name, kind, input.take n⟩ :: ·)

def fits (t : Template) (path : List Char) : Bool := (t.captures? path).isSome

end Template

def overlaps (first second : String) : Except TemplateFault Bool := do
  let a ← Template.ofPath first
  let b ← Template.ofPath second
  return a.fits second.toList || b.fits first.toList

end SavingsSite.Routing
