import SavingsSite.Schema.Object
import SavingsSite.Settings.Basic

set_option autoImplicit false

/-! Settings as an object, and what it tells: the values of its keys, the allowed origins and the
stage. The object that settings are made into tells what they are; one whose contents were replaced
since tells what it holds, or that a value is absent. -/

namespace SavingsSite.Settings

open Schema

def object (s : Settings) : RecordObject := .ofRecord s.toJson

structure Report where
  values : Json
  origins : Json
  development : Json
  production : Json

def originsOf (o : RecordObject) : Except ObjectFault Json := do
  match ← kind.value o "CORS_ORIGINS" with
  | .text (.sound text) => .ok (Json.ofStrings (originList text))
  | other => .error (.lacking other "split")

def isAt (stage : Stage) (o : RecordObject) : Except ObjectFault Json := do
  match ← kind.value o "ENVIRONMENT" with
  | .text (.sound name) => .ok (.flag (name = stage.name))
  | _ => .ok (.flag false)

def toldOrigins (o : RecordObject) : Except ObjectFault Json :=
  kind.derive o "cors_origins_list" (originsOf o)

def toldDevelopment (o : RecordObject) : Except ObjectFault Json :=
  kind.derive o "is_development" (isAt .development o)

def toldProduction (o : RecordObject) : Except ObjectFault Json :=
  kind.derive o "is_production" (isAt .production o)

def report (o : RecordObject) : Except ObjectFault Report := do
  let values ← kind.shown o
  let origins ← toldOrigins o
  let development ← toldDevelopment o
  let production ← toldProduction o
  .ok ⟨values, origins, development, production⟩

/-- What making an application asks of an object: whether it is verbose, its stage, and in
production the allowed origins. -/
def prepare (o : RecordObject) : Except ObjectFault Unit := do
  let _ ← kind.value o "DEBUG"
  let production ← toldProduction o
  if production.isVoid then .ok ()
  else
    let _ ← toldOrigins o
    .ok ()

theorem report_object (s : Settings) :
    report s.object = .ok ⟨s.toJson, Json.ofStrings s.allowedOrigins,
      .flag s.isDevelopment, .flag s.isProduction⟩ := by
  cases s with
  | mk rpcUrl network contractId stage debug host port origins =>
      cases stage <;> rfl

theorem prepare_object (s : Settings) : prepare s.object = .ok () := by
  cases s with
  | mk rpcUrl network contractId stage debug host port origins =>
      cases stage <;> rfl

end SavingsSite.Settings
