import SavingsSite.Json.Document
import SavingsSite.Text.Quoted

set_option autoImplicit false

/-! What is wrong with a value that does not have the required shape, and where. -/

namespace SavingsSite.Schema

inductive Step where
  | field (name : String)
  | index (position : Nat)
  deriving DecidableEq, Repr

/-- Where a value comes from; the origin decides how containers are called. -/
inductive Origin where
  | data
  | document
  | request
  deriving DecidableEq, Repr

inductive TextPattern where
  | webAddress
  | contract
  deriving DecidableEq, Repr

def TextPattern.source : TextPattern → String
  | webAddress => "^https?://\\S+$"
  | contract => "^C[A-Z2-7]\x7b55\x7d$"

inductive IssueKind where
  | missing
  | notText
  | tornText
  | textTooShort (least : Nat)
  | patternMismatch (pattern : TextPattern)
  | notAnOption (options : List String)
  | notInteger
  | integerText
  | integerTooLong
  | fraction
  | notFinite
  | below (least : Int)
  | above (greatest : Int)
  | notFlag
  | flagText
  | notList (origin : Origin)
  | listTooShort (least : Nat) (size : Nat)
  | notRecord (origin : Origin) (title : String)
  | frozen
  | invalidDocument (fault : Json.Document.Fault)
  deriving DecidableEq, Repr

/-- One thing that is wrong, the way to it from the outermost value, and the value found there. -/
structure Issue where
  kind : IssueKind
  path : List Step
  input : Json

namespace IssueKind

def code : IssueKind → String
  | missing => "missing"
  | notText => "string_type"
  | tornText => "string_unicode"
  | textTooShort _ => "string_too_short"
  | patternMismatch _ => "string_pattern_mismatch"
  | notAnOption _ => "literal_error"
  | notInteger => "int_type"
  | integerText => "int_parsing"
  | integerTooLong => "int_parsing_size"
  | fraction => "int_from_float"
  | notFinite => "finite_number"
  | below _ => "greater_than_equal"
  | above _ => "less_than_equal"
  | notFlag => "bool_type"
  | flagText => "bool_parsing"
  | notList _ => "list_type"
  | listTooShort _ _ => "too_short"
  | notRecord .request _ => "model_attributes_type"
  | notRecord _ _ => "model_type"
  | frozen => "frozen_instance"
  | invalidDocument _ => "json_invalid"

def optionsText : List String → String
  | [] => ""
  | [last] => Text.quoted last
  | [a, b] => Text.quoted a ++ " or " ++ Text.quoted b
  | a :: rest => Text.quoted a ++ ", " ++ optionsText rest

def amount (n : Nat) (thing : String) : String :=
  toString n ++ " " ++ thing ++ (if n = 1 then "" else "s")

def message : IssueKind → String
  | missing => "Field required"
  | notText => "Input should be a valid string"
  | tornText =>
      "Input should be a valid string, unable to parse raw data as a unicode string"
  | textTooShort least => "String should have at least " ++ amount least "character"
  | patternMismatch pattern => "String should match pattern '" ++ pattern.source ++ "'"
  | notAnOption options => "Input should be " ++ optionsText options
  | notInteger => "Input should be a valid integer"
  | integerText => "Input should be a valid integer, unable to parse string as an integer"
  | integerTooLong => "Unable to parse input string as an integer, exceeded maximum size"
  | fraction => "Input should be a valid integer, got a number with a fractional part"
  | notFinite => "Input should be a finite number"
  | below least => "Input should be greater than or equal to " ++ toString least
  | above greatest => "Input should be less than or equal to " ++ toString greatest
  | notFlag => "Input should be a valid boolean"
  | flagText => "Input should be a valid boolean, unable to interpret input"
  | notList .document => "Input should be a valid array"
  | notList _ => "Input should be a valid list"
  | listTooShort least size =>
      "List should have at least " ++ amount least "item" ++ " after validation, not " ++
        toString size
  | notRecord .data title => "Input should be a valid dictionary or instance of " ++ title
  | notRecord .document _ => "Input should be an object"
  | notRecord .request _ =>
      "Input should be a valid dictionary or object to extract fields from"
  | frozen => "Instance is frozen"
  | invalidDocument fault => fault.message

def context : IssueKind → List (String × Json)
  | below least => [("ge", .whole least)]
  | above greatest => [("le", .whole greatest)]
  | _ => []

end IssueKind

def Step.toJson : Step → Json
  | field name => Json.ofString name
  | index position => .whole position

def Issue.under (step : Step) (issue : Issue) : Issue :=
  { issue with path := step :: issue.path }

end SavingsSite.Schema
