import SavingsSite.Fault
import SavingsSite.Log
import SavingsSite.Settings.Basic
import SavingsSite.Settings.File
import SavingsSite.Text.Sorted

set_option autoImplicit false

/-! Loading the settings. A variable of the process wins over the settings file; an empty value of
either counts as absent. A settings file may have names besides the keys, which no key reads. -/

namespace SavingsSite.Settings

open Schema

def present : Option String → Option String
  | some "" => none
  | value => value

def textFields (text : String → Option String) (names : List String) : Json.Fields :=
  names.filterMap fun name =>
    (text name).map fun value => (.sound name, Json.ofString value)

/-- The keys that the process has a text for. Its other variables are left alone. -/
def processFields (env : Environment) : Json.Fields :=
  textFields (fun name => present (env.get? name)) keys

/-- The keys that the settings file has a text for, and after them its other names. -/
def fileFields (file : File.Bindings) : Json.Fields :=
  textFields (fun name => present (File.value? file name))
    (keys ++ (File.names file).filter (!keys.contains ·))

/-- What the settings are read from: the fields of the file, and over them those of the process. -/
def rawFields (env : Environment) (file : File.Bindings) : Json.Fields :=
  (fileFields file).putAll (processFields env)

/-- What the settings are read from: the process and the text of the settings file, if any. -/
structure Source where
  env : Environment
  file : Option String

def Source.bindings (source : Source) : File.Bindings :=
  match source.file with
  | some text => File.values source.env text
  | none => []

def issueKey (issue : Issue) : String :=
  ".".intercalate (issue.path.map fun
    | .field name => name
    | .index position => toString position)

def failingKeys (issues : List Issue) : List String := Text.sortedStrings (issues.map issueKey)

structure LoadFault where
  issues : List Issue

def LoadFault.keys (fault : LoadFault) : List String := failingKeys fault.issues

/-- The fault that a failed load raises. It carries the report of the validation library on the
issues. -/
def LoadFault.siteFault (report : List Issue → String) (fault : LoadFault) : SiteFault :=
  .configuration fault.keys (report fault.issues)

def LoadFault.record (fault : LoadFault) : LogRecord :=
  ⟨"app.config", .error, "Invalid configuration for: " ++ ", ".intercalate fault.keys⟩

def load (source : Source) : Except LoadFault Settings :=
  (ofFields (rawFields source.env source.bindings)).mapError (⟨·⟩)

def loadLog (source : Source) : List LogRecord :=
  match load source with
  | .ok _ => []
  | .error fault => [fault.record]

end SavingsSite.Settings
