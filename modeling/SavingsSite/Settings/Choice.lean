import SavingsSite.Json.Basic

set_option autoImplicit false

/-! Choices among given values: named values that say how others are read. Null chooses nothing. -/

namespace SavingsSite.Settings

def choice? (given : Json.Fields) (name : String) : Option Json :=
  match Json.Fields.get? name given with
  | some .null => none
  | value => value

def isChosen (given : Json.Fields) (name : String) (default : Bool) : Bool :=
  match choice? given name with
  | some value => !value.isVoid
  | none => default

def chosenText? (given : Json.Fields) (name : String) : Option String :=
  match choice? given name with
  | some (.text (.sound text)) => some text
  | _ => none

end SavingsSite.Settings
