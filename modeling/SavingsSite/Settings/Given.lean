import SavingsSite.Settings.Command
import SavingsSite.Settings.Load

set_option autoImplicit false

/-! Settings made directly from given values. The words of a command line win over the given
values, and these over the variables of the process. Names among the given ones that start with a
low line say how the words and the variables are read. -/

namespace SavingsSite.Settings

open Schema

structure Reading where
  /-- Whether the names of variables are told apart by the case of their letters. -/
  cased : Bool := true
  lead : String := ""
  skipEmpty : Bool := true
  nullWord : Option String := none

/-- Whether the lead belongs to the names of variables, and not to other names of theirs alone. -/
def hasLead (given : Json.Fields) : Bool :=
  match choice? given "_env_prefix_target" with
  | none => true
  | some (.text (.sound target)) => target = "variable" || target = "all"
  | some _ => false

def Reading.ofGiven (given : Json.Fields) : Reading where
  cased := isChosen given "_case_sensitive" true
  lead := if hasLead given then (chosenText? given "_env_prefix").getD "" else ""
  skipEmpty := isChosen given "_env_ignore_empty" true
  nullWord := chosenText? given "_env_parse_none_str"

def Reading.form (reading : Reading) (name : String) : String :=
  if reading.cased then name else Text.lowered name

/-- The value that the variables have for a key; the last variable that fits counts. -/
def Reading.value? (reading : Reading) (env : Environment) (key : String) : Option Json :=
  let wanted := reading.form (reading.lead ++ key)
  let fitting := env.filter fun (name, text) =>
    reading.form name = wanted && !(reading.skipEmpty && text = "")
  fitting.getLast?.map fun (_, text) =>
    if reading.nullWord = some text then .null else Json.ofString text

inductive GivenFault where
  | givenTwice (name : String)
  | receiverTwice
  | noDepth (given : Json)
  | noLength (given : Json)
  | noLead
  | noFolders (given : Json)
  | noFolder (given : Json)
  | command (fault : CommandFault)
  | invalid (issues : List Issue)

/-- The name that says which settings file is read. It has its value, none, already. -/
def fileName : String := "_env_file"

def receiverName : String := "__pydantic_self__"

def GivenFault.message : GivenFault → String
  | .givenTwice name =>
      "app.config.Settings() got multiple values for keyword argument '" ++ name ++ "'"
  | .receiverTwice =>
      "BaseSettings.__init__() got multiple values for argument '" ++ receiverName ++ "'"
  | .noDepth given => "unsupported operand type(s) for -: '" ++ given.sortName ++ "' and 'int'"
  | .noLength given => "object of type '" ++ given.sortName ++ "' has no len()"
  | .noLead =>
      "error getting value for field \"STELLAR_RPC_URL\" from source \"EnvSettingsSource\""
  | .noFolders given => "'" ++ given.sortName ++ "' object is not iterable"
  | .noFolder given =>
      "expected str, bytes or os.PathLike object, not " ++ given.sortName
  | .command fault => fault.message
  | .invalid _ => ""

def checkDepth (given : Json.Fields) : Except GivenFault Unit :=
  match choice? given "_env_nested_max_split" with
  | none | some (.flag _) | some (.whole _) | some (.real _) => .ok ()
  | some other => if other.isVoid then .ok () else .error (.noDepth other)

def checkLength (given : Json.Fields) : Except GivenFault Unit :=
  match choice? given "_env_prefix" with
  | none | some (.text _) | some (.list _) | some (.record _) => .ok ()
  | some other => .error (.noLength other)

def checkLead (given : Json.Fields) : Except GivenFault Unit :=
  match choice? given "_env_prefix" with
  | none | some (.text _) => .ok ()
  | some _ => if hasLead given then .error .noLead else .ok ()

def checkFolders (given : Json.Fields) : Except GivenFault Unit :=
  match choice? given "_secrets_dir" with
  | none | some (.text _) | some (.record _) => .ok ()
  | some (.list folders) =>
      let isPath : Json → Bool := fun
        | .text _ => true
        | _ => false
      match folders.find? (!isPath ·) with
      | some folder => .error (.noFolder folder)
      | none => .ok ()
  | some other => .error (.noFolders other)

/-- The value of every key that has one: of the command line, of the given values, or of the
variables. -/
def givenFields (words given : Json.Fields) (env : Environment) : Json.Fields :=
  keys.filterMap fun key =>
    match Json.Fields.get? key words, Json.Fields.get? key given with
    | some value, _ => some (.sound key, value)
    | none, some value => some (.sound key, value)
    | none, none => ((Reading.ofGiven given).value? env key).map (.sound key, ·)

def checkNames (given : Json.Fields) : Except GivenFault Unit :=
  if (Json.Fields.get? fileName given).isSome then .error (.givenTwice fileName)
  else if (Json.Fields.get? receiverName given).isSome then .error .receiverTwice
  else .ok ()

def ofGiven (given : Json.Fields) (env : Environment) : Except GivenFault Settings := do
  checkNames given
  checkDepth given
  checkLength given
  let words ← (commandFields given).mapError .command
  checkLead given
  checkFolders given
  (ofFields (givenFields words given env)).mapError .invalid

end SavingsSite.Settings
