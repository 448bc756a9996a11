import SavingsSite.Service.Site

set_option autoImplicit false

/-! Starting the server: where it listens, and whether it watches for changes. -/

namespace SavingsSite.Service

structure Launch where
  target : String
  host : String
  port : Int
  reload : Bool
  deriving DecidableEq, Repr

def Launch.ofSettings (settings : Settings) : Launch where
  target := "app.main:app"
  host := settings.host
  port := settings.port
  reload := settings.isDevelopment

def Launch.toJson (launch : Launch) : Json :=
  Json.ofFields [
    ("target", Json.ofString launch.target),
    ("host", Json.ofString launch.host),
    ("port", .whole launch.port),
    ("reload", .flag launch.reload)]

/-- The launch that a source of settings leads to. Without valid settings nothing is started. -/
def launch (source : Settings.Source) : Except Settings.LoadFault Launch :=
  (Settings.load source).map Launch.ofSettings

end SavingsSite.Service
