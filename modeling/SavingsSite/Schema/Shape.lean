import SavingsSite.Schema.Coerce

set_option autoImplicit false

/-! Shapes of values. Reading a value in a shape gives the value in its normal form, or every
issue of the value in the order of the fields. -/

namespace SavingsSite.Schema

inductive TextRule where
  | any
  | atLeast (size : Nat)
  | matching (pattern : TextPattern)
  deriving DecidableEq, Repr

mutual

inductive Shape where
  | text (rule : TextRule)
  | integer (least greatest : Option Int)
  | flag
  | oneOf (options : List String)
  | nullable (inner : Shape)
  | list (least : Nat) (item : Shape)
  | record (title : String) (fields : Fields)

/-- Fields in order; one without a default is required. -/
inductive Fields where
  | done
  | field (name : String) (shape : Shape) (default : Option Json) (rest : Fields)

end

/-- A web address: a scheme, two slashes and at least one character, with no white space. -/
def isWebAddress (address : List Char) : Bool :=
  let afterScheme (scheme : List Char) : Bool :=
    match scheme.isPrefixOf address, address.drop scheme.length with
    | true, c :: rest => (c :: rest).all fun c => !Text.isWhiteSpace c
    | _, _ => false
  afterScheme "http://".toList || afterScheme "https://".toList

def isContractId (id : List Char) : Bool :=
  match id with
  | 'C' :: rest =>
      rest.length = 55 && rest.all fun c => ('A' ≤ c && c ≤ 'Z') || ('2' ≤ c && c ≤ '7')
  | _ => false

def TextPattern.accepts : TextPattern → List Char → Bool
  | webAddress => isWebAddress
  | contract => isContractId

def TextRule.issue? (rule : TextRule) (value : String) : Option IssueKind :=
  match rule with
  | any => none
  | atLeast size => if value.length < size then some (.textTooShort size) else none
  | matching pattern =>
      if pattern.accepts value.toList then none else some (.patternMismatch pattern)

def boundIssue? (least greatest : Option Int) (n : Int) : Option IssueKind :=
  match greatest, least with
  | some g, l => if g < n then some (.above g) else
      match l with
      | some l => if n < l then some (.below l) else none
      | none => none
  | none, some l => if n < l then some (.below l) else none
  | none, none => none

def oneIssue (kind : IssueKind) (input : Json) : Except (List Issue) Json :=
  .error [⟨kind, [], input⟩]

def both {α β : Type} (first : Except (List Issue) α) (second : Except (List Issue) β) :
    Except (List Issue) (α × β) :=
  match first, second with
  | .ok a, .ok b => .ok (a, b)
  | .ok _, .error issues => .error issues
  | .error issues, .ok _ => .error issues
  | .error issues, .error more => .error (issues ++ more)

def readItems (read : Json → Except (List Issue) Json) (position : Nat) :
    List Json → Except (List Issue) (List Json)
  | [] => .ok []
  | value :: rest =>
      let first := (read value).mapError (·.map (·.under (.index position)))
      (both first (readItems read (position + 1) rest)).map fun (item, items) => item :: items

mutual

def Shape.read (origin : Origin) : Shape → Json → Except (List Issue) Json
  | .text rule, input =>
      match input with
      | .text (.sound value) =>
          match rule.issue? value with
          | none => .ok input
          | some kind => oneIssue kind input
      | .text (.torn _) => oneIssue .tornText input
      | _ => oneIssue .notText input
  | .integer least greatest, input =>
      match integerOf input with
      | .error kind => oneIssue kind input
      | .ok n =>
          match boundIssue? least greatest n with
          | none => .ok (.whole n)
          | some kind => oneIssue kind input
  | .flag, input =>
      match flagOf input with
      | .error kind => oneIssue kind input
      | .ok b => .ok (.flag b)
  | .oneOf options, input =>
      match input with
      | .text (.sound value) =>
          if options.contains value then .ok input else oneIssue (.notAnOption options) input
      | _ => oneIssue (.notAnOption options) input
  | .nullable inner, input =>
      match input with
      | .null => .ok .null
      | _ => inner.read origin input
  | .list least item, input =>
      match input with
      | .list values =>
          match readItems (item.read origin) 0 values with
          | .error issues => .error issues
          | .ok items =>
              if items.length < least then oneIssue (.listTooShort least items.length) input
              else .ok (.list items)
      | _ => oneIssue (.notList origin) input
  | .record title fields, input =>
      match input with
      | .record given => (fields.read origin given).map Json.record
      | _ => oneIssue (.notRecord origin title) input

def Fields.read (origin : Origin) : Fields → Json.Fields → Except (List Issue) Json.Fields
  | .done, _ => .ok []
  | .field name shape default rest, given =>
      let value : Except (List Issue) Json :=
        match Json.Fields.get? name given, default with
        | some value, _ => (shape.read origin value).mapError (·.map (·.under (.field name)))
        | none, some value => .ok value
        | none, none => .error [⟨.missing, [.field name], .record given⟩]
      (both value (rest.read origin given)).map fun (value, values) =>
        (.sound name, value) :: values

end

def Fields.requires (name : String) : Fields → Bool
  | .done => false
  | .field other _ default rest => (other = name && default.isNone) || rest.requires name

def Fields.names : Fields → List String
  | .done => []
  | .field name _ _ rest => name :: rest.names

end SavingsSite.Schema
