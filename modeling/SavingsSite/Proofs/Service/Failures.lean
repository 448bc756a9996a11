import SavingsSite.Proofs.Service.Application
import SavingsSite.Proofs.Service.Reports

set_option autoImplicit false

/-! What becomes of a handler that fails. A fault of the site is answered with its own status and
record, and a refusal or a report on input as it says. Of anything else the client learns nothing:
the answer is always the same, and what went wrong goes to the log and out of the application. -/

namespace SavingsSite.Service

open Routing
open Http (Request)

/-- What a record says of a fault: always the message and the code, a suggestion and details only
when the fault has some. -/
structure Tells (body : Json) (fault : SiteFault) : Prop where
  detail : body.field? "detail" = some (Json.ofString fault.message)
  code : body.field? "code" = some (Json.ofString fault.code)
  suggestion : body.field? "suggestion" =
    (fault.suggestion.filter (· ≠ "")).map Json.ofString
  details : body.field? "details" = if fault.details.isVoid then none else some fault.details

theorem body_tells (fault : SiteFault) : Tells fault.body fault := by
  rw [body_eq]
  constructor <;>
    cases fault.suggestion.filter (· ≠ "") <;> cases fault.details.isVoid <;> rfl

/-! ### Handlers that fail -/

/-- A failure that has an answer: a fault whose details can be sent, a refusal that can be, or a
report of which this holds. -/
def Failure.isExpected : Failure → Bool
  | .site fault => fault.details.isSendable
  | .refused status detail headers => (refusal status detail headers).isOk
  | .invalid errors => errors.all Json.isSendable
  | .crash _ => false

inductive Failure.Answered : Failure → Http.Response → Prop
  | site (fault : SiteFault) :
      Answered (.site fault) { status := fault.status, content := .json fault.body }
  | refused (status : Int) (detail : Json) (headers : List (String × String))
      (response : Http.Response) (refuses : refusal status detail headers = .ok response) :
      Answered (.refused status detail headers) response
  | invalid (errors : List Json) :
      Answered (.invalid errors) { status := 422, content := .json (report errors) }

/-- An expected failure is answered; behind any other there is a crash, which is the failure itself
if it is one. -/
theorem respond_failed (failure : Failure) :
    (failure.isExpected = true ∧ ∃ response, failure.Answered response ∧
      (Outcome.failed failure).respond = .ok response) ∨
    (failure.isExpected = false ∧ ∃ crash, (Outcome.failed failure).respond = .error crash ∧
      ∀ own, failure = .crash own → crash = own) := by
  cases failure with
  | site fault =>
      rcases jsonResponse_cases fault.status fault.body [] with
        ⟨sendable, responds⟩ | ⟨unsendable, crash, fails⟩
      · exact Or.inl ⟨(body_isSendable_iff fault).mp sendable, _, .site fault, responds⟩
      · have unexpected : fault.details.isSendable = false := by
          rw [← Bool.not_eq_true, ← body_isSendable_iff, unsendable]
          exact Bool.false_ne_true
        exact Or.inr ⟨unexpected, crash, fails, nofun⟩
  | refused status detail headers =>
      cases refuses : refusal status detail headers with
      | ok response =>
          refine Or.inl ⟨?_, response, .refused status detail headers response refuses, refuses⟩
          rw [Failure.isExpected, refuses]
          rfl
      | error crash =>
          refine Or.inr ⟨?_, crash, refuses, nofun⟩
          rw [Failure.isExpected, refuses]
          rfl
  | invalid errors =>
      have expected : Failure.isExpected (.invalid errors) = (report errors).isSendable := by
        rw [Bool.eq_iff_iff, report_isSendable_iff, Failure.isExpected, List.all_eq_true]
      rcases jsonResponse_cases 422 (report errors) [] with
        ⟨sendable, responds⟩ | ⟨unsendable, crash, fails⟩
      · exact Or.inl ⟨expected.trans sendable, _, .invalid errors, responds⟩
      · exact Or.inr ⟨expected.trans unsendable, crash, fails, nofun⟩
  | crash crash => exact Or.inr ⟨rfl, crash, rfl, fun own same => Failure.crash.inj same⟩

/-! ### Runs -/

theorem keptAt_crashRecord (level : LogLevel) (log : List LogRecord) (crash : Crash) :
    keptAt level (log ++ [Site.crashRecord crash]) =
      keptAt level log ++ [Site.crashRecord crash] := by
  rw [keptAt, keptAt, List.filter_append]
  cases level <;> rfl

/-- A request that an application passes to a handler, which fails. -/
structure FailingRun where
  documentation : Documentation
  settings : Settings
  modules : List (FeatureModule Endpoint)
  site : Site
  created : (create documentation settings modules).site = .ok site
  now : String
  request : Request
  passes : Passes request
  route : Route Endpoint
  params : List (String × ParamValue)
  served : dispatch site.table request.method request.path = .serve route params
  failure : Failure
  fails : (route.endpoint.handle site.page ⟨site.settings, now⟩ route.kind request params).outcome =
    .failed failure

namespace FailingRun

variable (run : FailingRun)

/-- What the handler logs before it fails, as far as the log keeps it. -/
def ownLog : List LogRecord :=
  keptAt (Site.logLevel run.site.settings)
    (run.route.endpoint.handle run.site.page ⟨run.site.settings, run.now⟩ run.route.kind run.request
      run.params).log

def reply : Site.Reply := run.site.respond run.now run.request

theorem reply_of_expected {response : Http.Response}
    (responds : (Outcome.failed run.failure).respond = .ok response) :
    run.reply = { response := run.site.granted run.request response, log := run.ownLog } := by
  rw [reply, Site.respond_of_passes run.passes, route_of_serve run.now run.request run.served]
  simp only [run.fails, responds]
  rfl

theorem reply_of_unexpected (unexpected : run.failure.isExpected = false) :
    ∃ crash, (∀ own, run.failure = .crash own → crash = own) ∧ run.reply =
      { response := Site.crashResponse, log := run.ownLog ++ [Site.crashRecord crash]
        crash := some crash } := by
  rcases respond_failed run.failure with ⟨expected, _⟩ | ⟨_, crash, fails, own⟩
  · cases unexpected.symm.trans expected
  · refine ⟨crash, own, ?_⟩
    rw [reply, Site.respond_of_passes run.passes, route_of_serve run.now run.request run.served]
    simp only [run.fails, fails, Site.passed, keptAt_crashRecord]
    rfl

end FailingRun

/-- A module with a handler that raises a fault of the site, one that raises an error, and one that
refuses every request. -/
def failingModule : FeatureModule Endpoint :=
  fixedModule "failing" "Failing" [
    ("GET", "/known", .failing (.site (.general "Gone" "GONE" 410 none .null))),
    ("GET", "/unknown", .failing (.crash (.raised "LookupError" "secret"))),
    ("GET", "/refused", .failing (.refused 404 (Json.ofString "No such plan") []))]

def failingSettings : Settings := { rpcUrl := "https://rpc" }

theorem exists_failingRun (path : String) {failure : Failure}
    (served : ∃ route params,
      dispatch (application .blank failingSettings [failingModule]).table "GET" path =
        .serve route params ∧ route.endpoint = .failing failure) :
    ∃ run : FailingRun, run.site = application .blank failingSettings [failingModule] ∧
      run.failure = failure ∧ run.ownLog = [] := by
  obtain ⟨site, created⟩ :
      ∃ site, (create .blank failingSettings [failingModule]).site = .ok site := ⟨_, rfl⟩
  obtain ⟨_, rfl⟩ := (create_site_eq_ok_iff failingSettings [failingModule] site).mp created
  obtain ⟨route, params, served, endpoint⟩ := served
  let request : Request := { method := "GET", path, query := "", headers := [], body := [] }
  have handled (page : String → Request → Outcome) (context : Context) :
      route.endpoint.handle page context route.kind request params = raise failure := by
    rw [endpoint]
    rfl
  refine ⟨⟨.blank, failingSettings, [failingModule], _, created, "", request, Or.inl rfl, route,
    params, served, failure, ?_⟩, rfl, rfl, ?_⟩
  · rw [handled]
    rfl
  · have own (level : LogLevel) (page : String → Request → Outcome) (context : Context) :
        keptAt level (route.endpoint.handle page context route.kind request params).log = [] := by
      rw [handled]
      rfl
    exact own _ _ _

end SavingsSite.Service
