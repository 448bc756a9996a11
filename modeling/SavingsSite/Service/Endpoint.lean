import SavingsSite.Accordion.Run
import SavingsSite.Content.Encoding
import SavingsSite.Http.Body
import SavingsSite.Http.Query
import SavingsSite.Log
import SavingsSite.Routing.Route
import SavingsSite.Service.Outcome
import SavingsSite.Settings.Basic

set_option autoImplicit false

/-! The endpoints of the site. The server keeps no accordion between requests: each request builds
one, measures it, applies the state that the client sends, and shows it. -/

namespace SavingsSite.Service

def version : String := "0.1.0"

def siteTitle : String := "Nestera API"

/-- What a handler reads besides the request: the settings and the time. -/
structure Context where
  settings : Settings
  now : String

structure Handled where
  outcome : Outcome
  log : List LogRecord := []

/-- An endpoint of the site, a page of the documentation with its path, or a handler of another
module, which may answer a request with any response and raise whatever it likes. -/
inductive Endpoint where
  | root
  | documentation (path : String)
  | health
  | readiness
  | liveness
  | chainStatus
  | faqList
  | accordion
  | toggle
  | hero
  | custom (handle : Context → Routing.RouteKind → Http.Request →
      List (String × Routing.ParamValue) → Handled)

def json (fields : List (String × Json)) : Handled :=
  { outcome := .answer (.json (Json.ofFields fields)) }

def raise (failure : Failure) : Handled := { outcome := .failed failure }

def invalid (details : List Detail) : Handled := raise (.invalid (details.map Detail.toJson))

def itemCount : Nat := Content.faqItems.length

/-- The fault of an index past the items. Its texts name the index, which must be writable. -/
def indexFault? (index : Int) : Option Failure :=
  if (itemCount : Int) ≤ index then
    match SiteFault.ofIndex index itemCount with
    | .ok fault => some (.site fault)
    | .error fault => some (.crash (.unwritable (.length fault)))
  else none

def accordionRecord (event : AccordionEvent) : LogRecord :=
  ⟨"core.accordion", .debug, event.message⟩

/-- The run after some steps, or the crash of the first that fails, with what was logged. -/
def runSteps (run : AccordionRun Unit) :
    List AccordionStep → Except Crash (AccordionRun Unit) × List AccordionEvent
  | [] => (.ok run, [])
  | step :: rest =>
      let outcome := run.perform TextMeasurer.standard.itemMeasurer step
      match outcome.reply with
      | .error fault => (.error (.accordion fault), outcome.events)
      | .ok _ =>
          let (last, events) := runSteps outcome.next rest
          (last, outcome.events ++ events)

/-- A run over the items of the site, measured, after a click on each index. -/
def clicked (indices : List Int) : Except Crash (AccordionRun Unit) × List AccordionEvent :=
  runSteps ⟨.ofItems Content.faqItems, ()⟩ (.mount :: indices.map .toggle)

/-- The answer of a handler after these clicks; `last` are the records that follow. -/
def shownAfter (last : Accordion → List LogRecord) :
    Except Crash (AccordionRun Unit) × List AccordionEvent → Handled
  | (.error crash, events) =>
      { outcome := .failed (.crash crash), log := events.map accordionRecord }
  | (.ok run, events) =>
      { outcome := .answer (.json run.accordion.render.toJson)
        log := events.map accordionRecord ++ last run.accordion }

def showClicked (indices : List Int) (last : Accordion → List LogRecord) : Handled :=
  shownAfter last (clicked indices)

def showAccordion (openIndex : Option Int) : Handled :=
  match openIndex.bind indexFault? with
  | some failure => raise failure
  | none => showClicked openIndex.toList fun _ => []

def toggleItem (openIndex : Option Int) (index : Int) : Handled :=
  match (openIndex.bind indexFault?).or (indexFault? index) with
  | some failure => raise failure
  | none =>
      showClicked (openIndex.toList ++ [index]) fun after =>
        [⟨"app.routers.faq", .debug,
          "Accordion toggle " ++ indexText openIndex ++ " -> " ++ indexText after.openIndex⟩]

def integerField? (record : Json) (name : String) : Option Int :=
  match record.field? name with
  | some (.whole n) => some n
  | _ => none

def getAccordion (request : Http.Request) : Handled :=
  match Http.queryValue? request.query "open_index" with
  | none => showAccordion none
  | some given =>
      match (Schema.Shape.nullable Content.position).read .request (Json.ofString given) with
      | .error issues =>
          invalid ((issues.map (·.under (.field "open_index"))).map (Detail.ofIssue "query"))
      | .ok (.whole n) => showAccordion (some n)
      | .ok _ => showAccordion none

def toggleOf (value : Json) : Handled :=
  match Content.toggleRequestKind.shape.read .request value with
  | .error issues => invalid (issues.map (Detail.ofIssue "body"))
  | .ok record =>
      toggleItem (integerField? record "open_index") ((integerField? record "index").getD 0)

def postToggle (request : Http.Request) : Handled :=
  match request.bodyValue with
  | .absent => invalid [Detail.bodyMissing]
  | .json value => toggleOf value
  | .malformed reason offset => invalid [Detail.ofMalformed reason offset]
  | .unreadable => raise (.refused 400 (Json.ofString "There was an error parsing the body") [])
  | .raw bytes =>
      match Text.decodeUtf8 bytes with
      | .ok chars => toggleOf (Json.ofString (String.ofList chars))
      | .error fault => raise (.crash (.undecodable fault))

def paramTexts (params : List (String × Routing.ParamValue)) : Json :=
  Json.ofFields (params.map fun (name, value) => (name, Json.ofString value.toText))

def Endpoint.echo (handler : String) : Endpoint :=
  .custom fun _ kind _ params =>
    let params := paramTexts params
    json [("handler", Json.ofString handler),
      ("params", if kind = .interface then shown params else params)]

def Endpoint.failing (failure : Failure) : Endpoint := .custom fun _ _ _ _ => raise failure

/-- What an endpoint makes of a request, where `page` gives the pages of documentation. -/
def Endpoint.handle (page : String → Http.Request → Outcome) (context : Context)
    (kind : Routing.RouteKind) (request : Http.Request)
    (params : List (String × Routing.ParamValue)) : Endpoint → Handled
  | root => json [
      ("name", Json.ofString siteTitle),
      ("version", Json.ofString version),
      ("docs", Json.ofString "/docs"),
      ("health", Json.ofString "/api/v1/health")]
  | documentation path => { outcome := page path request }
  | health => json [
      ("status", Json.ofString "healthy"),
      ("timestamp", Json.ofString context.now),
      ("environment", Json.ofString context.settings.stage.name),
      ("version", Json.ofString version)]
  | readiness => json [
      ("status", Json.ofString "ready"),
      ("checks", Json.ofFields [
        ("configuration", Json.ofString "loaded"),
        ("network", Json.ofString context.settings.network.name)]),
      ("timestamp", Json.ofString context.now)]
  | liveness => json [
      ("status", Json.ofString "alive"),
      ("timestamp", Json.ofString context.now)]
  | chainStatus => json [
      ("network", Json.ofString context.settings.network.name),
      ("rpc_url", Json.ofString context.settings.rpcUrl),
      ("contract_id", Json.ofOption Json.ofString context.settings.contractId),
      ("mode", Json.ofString "stub")]
  | faqList => { outcome := .answer (.json Content.faqList) }
  | accordion => getAccordion request
  | toggle => postToggle request
  | hero => { outcome := .answer (.json Content.hero.toJson) }
  | custom handle => handle context kind request params

end SavingsSite.Service
