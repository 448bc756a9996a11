import SavingsSite.Json.Scan

set_option autoImplicit false

/-! Faults with a machine-readable code and, where possible, a way to mend them. -/

namespace SavingsSite

inductive SiteFault where
  | general (message code : String) (status : Int) (suggestion : Option String) (details : Json)
  | configuration (keys : List String) (error : String)
  | composition (reason : String) (modules : List String)
  | itemNotFound (index count : Int)

namespace SiteFault

/-- The fault of an index among `count` items, which its texts name together with the last index. -/
def ofIndex (index count : Int) : Except LengthFault SiteFault :=
  if isWritable index && isWritable (count - 1) then .ok (.itemNotFound index count)
  else .error .tooManyDigits

def generalCode : String := "NESTERA_ERROR"

def message : SiteFault → String
  | general message _ _ _ _ => message
  | configuration keys _ => "Invalid configuration: " ++ ", ".intercalate keys
  | composition reason _ => "Cannot compose modules: " ++ reason
  | itemNotFound index _ => "FAQ item not found: " ++ toString index

def code : SiteFault → String
  | general _ code _ _ _ => code
  | configuration _ _ => "CONFIGURATION_ERROR"
  | composition _ _ => "MODULE_COMPOSITION_ERROR"
  | itemNotFound _ _ => "FAQ_ITEM_NOT_FOUND"

def status : SiteFault → Int
  | general _ _ status _ _ => status
  | itemNotFound _ _ => 404
  | _ => 500

def suggestion : SiteFault → Option String
  | general _ _ _ suggestion _ => suggestion
  | configuration _ _ =>
      some "Set the listed environment variables (or add them to .env) and restart"
  | composition _ _ => some "Give each module a unique name and non-overlapping routes"
  | itemNotFound _ count => some ("Use an index between 0 and " ++ toString (count - 1))

def details : SiteFault → Json
  | general _ _ _ _ details => if details.isVoid then .record [] else details
  | configuration keys error =>
      Json.ofFields [("keys", Json.ofStrings keys), ("error", Json.ofString error)]
  | composition _ modules => Json.ofFields [("modules", Json.ofStrings modules)]
  | itemNotFound index count => Json.ofFields [("index", .whole index), ("count", .whole count)]

/-- The record that an answer carries: message and code always, suggestion and details only when
they say something. -/
def body (fault : SiteFault) : Json :=
  let suggestion :=
    match fault.suggestion with
    | some text => if text = "" then [] else [("suggestion", Json.ofString text)]
    | none => []
  let details := if fault.details.isVoid then [] else [("details", fault.details)]
  Json.ofFields ([("detail", Json.ofString fault.message), ("code", Json.ofString fault.code)] ++
    suggestion ++ details)

end SiteFault

end SavingsSite
