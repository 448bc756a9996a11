import SavingsSite.Http.Cors
import SavingsSite.Routing.Table
import SavingsSite.Service.Modules
import SavingsSite.Settings.Load
import SavingsSite.Text.Percent

set_option autoImplicit false

/-! The application: modules composed between the pages of documentation and the root, and its
answers to requests. -/

namespace SavingsSite.Service

open Routing

/-- The documentation that is made of an application: a page at each of its paths. It may depend on
the settings and on the table of routes, and it tells no time. -/
structure Documentation where
  page : Settings → List (Entry Endpoint) → String → Http.Request → Outcome

def Documentation.blank : Documentation where
  page _ _ _ _ := .answer (.page "")

structure Site where
  documentation : Documentation
  settings : Settings
  modules : List String
  table : List (Entry Endpoint)

def documentationPaths : List String :=
  ["/openapi.json", "/docs", "/docs/oauth2-redirect", "/redoc"]

def documentationRoutes : List (Route Endpoint) :=
  documentationPaths.filterMap fun path =>
    (Route.plain path ["GET"] (Endpoint.documentation path)).toOption

def rootRoute? : Option (Route Endpoint) :=
  (Route.interface "/" ["GET"] Endpoint.root).toOption

/-- An application with what its composition wrote to the log, or why there is none. -/
structure Created where
  site : Except ComposeFault Site
  log : List LogRecord

def create (documentation : Documentation) (settings : Settings)
    (modules : List (FeatureModule Endpoint)) : Created :=
  let pages := documentationRoutes.map Entry.route
  let work := Composition.compose pages modules settings rootRoutes
  { site := work.answer.map fun names =>
      { documentation, settings, modules := names
        table := work.table ++ rootRoute?.toList.map Entry.route }
    log := work.log }

namespace Site

def logLevel (settings : Settings) : LogLevel := if settings.debug then .debug else .info

/-- Which origins may read answers: in production those of the settings, elsewhere all. -/
def corsPolicy (settings : Settings) : Http.Cors.Policy :=
  if settings.isProduction then .ofList settings.allowedOrigins else .all

def address (request : Http.Request) (path : String) : String :=
  let host := (request.header? "host").getD "localhost"
  let query := if request.query = "" then "" else "?" ++ request.query
  let plain := "http://" ++ host ++ path ++ query
  String.ofList (Text.percentEncode Text.isAddressChar plain.toList)

/-- The answer to a method that a route does not serve. It names the methods that it does, if the
header can hold them. -/
def refusal (methods : List String) : Except Crash Http.Response :=
  let allow := ", ".intercalate methods
  match Text.encodeFault? .latin1 0 (Text.symbols allow) with
  | some fault => .error (.unencodable fault)
  | none => .ok ((Http.detailResponse 405 "Method Not Allowed").setHeader "allow" allow)

def page (site : Site) : String → Http.Request → Outcome :=
  site.documentation.page site.settings site.table

def route (site : Site) (now : String) (request : Http.Request) :
    Except Crash Http.Response × List LogRecord :=
  match dispatch site.table request.method request.path with
  | .serve route params =>
      let handled :=
        route.endpoint.handle site.page ⟨site.settings, now⟩ route.kind request params
      (handled.outcome.respond, handled.log)
  | .refuse route => (refusal route.methods, [])
  | .redirect path =>
      (.ok { status := 307, headers := [("location", address request path)], content := .empty },
        [])
  | .missing => (.ok (Http.detailResponse 404 "Not Found"), [])
  | .lost fault => (.error (.lost fault), [])

def crashResponse : Http.Response where
  status := 500
  content := .json (Json.ofFields [
    ("detail", Json.ofString "An unexpected error occurred"),
    ("code", Json.ofString "INTERNAL_ERROR")])

def crashRecord (crash : Crash) : LogRecord :=
  ⟨"app.main", .error, "Unexpected error: " ++ crash.message⟩

/-- What a client receives, the log, and the crash behind the answer, if there was one. -/
structure Reply where
  response : Http.Response
  log : List LogRecord
  crash : Option Crash := none

/-- The answer without regard to the log level. Grants to other origins are added to every answer
but that to a crash. -/
def reply (site : Site) (now : String) (request : Http.Request) : Reply :=
  let policy := corsPolicy site.settings
  let grant (response : Http.Response) : Http.Response :=
    match request.header? "origin" with
    | some origin => Http.Cors.grant policy request origin response
    | none => response
  match request.header? "origin", Http.Cors.isPreflight request with
  | some origin, true => { response := Http.Cors.preflight policy request origin, log := [] }
  | _, _ =>
      match site.route now request with
      | (.ok response, log) => { response := grant response, log }
      | (.error crash, log) =>
          { response := crashResponse, log := log ++ [crashRecord crash], crash := some crash }

def respond (site : Site) (now : String) (request : Http.Request) : Reply :=
  let answer := site.reply now request
  { answer with log := keptAt (logLevel site.settings) answer.log }

def startLog (settings : Settings) : List LogRecord := [
  ⟨"app.main", .info, "Starting " ++ siteTitle ++ " in " ++ settings.stage.name ++ " mode"⟩,
  ⟨"app.main", .info, "CORS origins: " ++ Text.quotedList settings.allowedOrigins⟩]

def stopLog : List LogRecord := [⟨"app.main", .info, "Shutting down " ++ siteTitle⟩]

end Site

end SavingsSite.Service
