import SavingsSite.Settings.Load
import SavingsSite.Settings.Report

set_option autoImplicit false

/-! A process that reads its settings over time. The accessor keeps the first settings it could
load until it is cleared; a direct load always reads the source of the moment. Every load makes
a new object, told apart by its number. -/

namespace SavingsSite.Settings

open Schema

/-- A settings object with the number of the load that made it. -/
structure Held where
  serial : Nat
  object : RecordObject

structure Session where
  source : Source := ⟨[], none⟩
  cached : Option Held := none
  last : Option Held := none
  loads : Nat := 0

inductive SessionStep where
  | setVariable (name value : String)
  | unsetVariable (name : String)
  | writeFile (text : Option String)
  | clear
  | get
  | load
  | createApp
  | assign (name : String) (value : Json)

/-- What a step answers; settings come with what they tell, and with whether they are the object
of the last success. -/
inductive SessionReply where
  | done
  | settings (held : Held) (report : Report) (same : Bool)

inductive SessionFault where
  | load (fault : LoadFault)
  | object (fault : ObjectFault)
  | variable (fault : VariableFault)

def nullNames : List String := [
  "__bool__", "__delattr__", "__dir__", "__doc__", "__eq__", "__format__", "__ge__",
  "__getattribute__", "__getstate__", "__gt__", "__hash__", "__init__", "__init_subclass__",
  "__le__", "__lt__", "__ne__", "__new__", "__reduce__", "__reduce_ex__", "__repr__",
  "__setattr__", "__sizeof__", "__str__", "__subclasshook__"]

/-- The fault of an assignment when there are no settings: null stands in their place. -/
def assignToNull (name : String) (value : Json) : ObjectFault :=
  if name = "__class__" then .notClass value
  else if nullNames.contains name then .readOnly .null name
  else .lacking .null name

def Held.revise (held : Held) (changed : Held) : Held :=
  if held.serial = changed.serial then changed else held

namespace Session

def obtain (s : Session) (held : Held) : Except SessionFault SessionReply × Session :=
  match report held.object with
  | .error fault => (.error (.object fault), s)
  | .ok report =>
      let same : Bool := (s.last.map Held.serial) = some held.serial
      (.ok (.settings held report same), { s with last := some held })

def loadNow (s : Session) : Except SessionFault Held × Session :=
  match Settings.load s.source with
  | .error fault => (.error (.load fault), s)
  | .ok settings => (.ok ⟨s.loads, settings.object⟩, { s with loads := s.loads + 1 })

def access (s : Session) : Except SessionFault Held × Session :=
  match s.cached with
  | some held => (.ok held, s)
  | none =>
      match s.loadNow with
      | (.ok held, next) => (.ok held, { next with cached := some held })
      | failed => failed

def answer (check : RecordObject → Except ObjectFault Unit) :
    Except SessionFault Held × Session → Except SessionFault SessionReply × Session
  | (.error fault, s) => (.error fault, s)
  | (.ok held, s) =>
      match check held.object with
      | .error fault => (.error (.object fault), s)
      | .ok () => s.obtain held

def assignLast (s : Session) (name : String) (value : Json) :
    Except SessionFault SessionReply × Session :=
  match s.last with
  | none => (.error (.object (assignToNull name value)), s)
  | some held =>
      let (fault, object) := kind.assign held.object name value
      let changed : Held := ⟨held.serial, object⟩
      let next := { s with
        last := some changed
        cached := s.cached.map (·.revise changed) }
      match fault with
      | some fault => (.error (.object fault), next)
      | none => (.ok .done, next)

def perform (s : Session) : SessionStep → Except SessionFault SessionReply × Session
  | .setVariable name value =>
      match Environment.fault? name value with
      | some fault => (.error (.variable fault), s)
      | none =>
          (.ok .done, { s with source := { s.source with env := s.source.env.set name value } })
  | .unsetVariable name =>
      (.ok .done, { s with source := { s.source with env := s.source.env.erase name } })
  | .writeFile text => (.ok .done, { s with source := { s.source with file := text } })
  | .clear => (.ok .done, { s with cached := none })
  | .get => answer (fun _ => .ok ()) s.access
  | .createApp => answer prepare s.access
  | .load => answer (fun _ => .ok ()) s.loadNow
  | .assign name value => s.assignLast name value

def performAll (s : Session) : List SessionStep → List (Except SessionFault SessionReply)
  | [] => []
  | step :: rest =>
      let (answer, next) := s.perform step
      answer :: next.performAll rest

end Session

end SavingsSite.Settings
