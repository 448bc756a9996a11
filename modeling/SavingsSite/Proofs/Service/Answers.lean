import SavingsSite.Proofs.Json.Sending
import SavingsSite.Service.Site

set_option autoImplicit false

/-! Answers that reach the client. A value that can be sent is sent with its status, any other is a
crash; a reply is a preflight, the response of a route, or that to a crash, and nothing that is added
for other origins changes the status or the content. -/

namespace SavingsSite.Service

open Text (Symbol)

theorem writeJson_of_sendable {value : Json} (sendable : value.isSendable = true) :
    writeJson value = .ok (.json value) := by
  obtain ⟨writable, whole⟩ := value.isSendable_iff.mp sendable
  have held : ∀ s ∈ value.print, Text.Charset.utf8.holds s = true := by
    intro s member
    rw [Text.Charset.holds, Bool.not_eq_true']
    exact Bool.eq_false_iff.mpr (List.any_eq_false.mp whole s member)
  simp only [writeJson, writable, Text.encodeFault?_eq_none .utf8 0 value.print held]

theorem writeJson_of_unsendable {value : Json} (unsendable : value.isSendable = false) :
    ∃ crash, writeJson value = .error crash := by
  unfold writeJson
  cases writable : value.numberFault? with
  | some fault => exact ⟨_, rfl⟩
  | none =>
      have half : value.print.any Symbol.isHalf = true := by
        rw [Json.isSendable, writable, Option.isNone_none, Bool.true_and, Bool.not_eq_false']
          at unsendable
        exact unsendable
      obtain ⟨s, member, isHalf⟩ := List.any_eq_true.mp half
      have lost : Text.Charset.utf8.holds s = false := by
        rw [Text.Charset.holds, isHalf]
        rfl
      obtain ⟨fault, found⟩ := Text.exists_encodeFault ⟨s, member, lost⟩ 0
      simp only [found]
      exact ⟨_, rfl⟩

theorem jsonResponse_cases (status : Int) (value : Json) (headers : List (String × String)) :
    (value.isSendable = true ∧
      jsonResponse status value headers = .ok { status, headers, content := .json value }) ∨
    (value.isSendable = false ∧ ∃ crash, jsonResponse status value headers = .error crash) := by
  unfold jsonResponse
  cases sendable : value.isSendable with
  | true =>
      rw [writeJson_of_sendable sendable]
      exact Or.inl ⟨rfl, rfl⟩
  | false =>
      obtain ⟨crash, failed⟩ := writeJson_of_unsendable sendable
      rw [failed]
      exact Or.inr ⟨rfl, crash, rfl⟩

theorem jsonResponse_of_sendable {value : Json} (sendable : value.isSendable = true) (status : Int)
    (headers : List (String × String)) :
    jsonResponse status value headers = .ok { status, headers, content := .json value } := by
  rw [jsonResponse, writeJson_of_sendable sendable]
  rfl

theorem respond_answer_of_sound {value : Json} (sound : value.isSound = true) :
    (Outcome.answer (.json value)).respond = .ok { status := 200, content := .json value } :=
  jsonResponse_of_sendable (Json.isSendable_of_sound sound) 200 []

theorem grant_status_content (policy : Http.Cors.Policy) (request : Http.Request) (origin : String)
    (response : Http.Response) :
    (Http.Cors.grant policy request origin response).status = response.status ∧
      (Http.Cors.grant policy request origin response).content = response.content := by
  cases policy <;> simp only [Http.Cors.grant] <;> split <;> exact ⟨rfl, rfl⟩

theorem route_of_serve {site : Site} (now : String) (request : Http.Request)
    {route : Routing.Route Endpoint} {params : List (String × Routing.ParamValue)}
    (served : Routing.dispatch site.table request.method request.path = .serve route params) :
    site.route now request =
      let handled :=
        route.endpoint.handle site.page ⟨site.settings, now⟩ route.kind request params
      (handled.outcome.respond, handled.log) := by
  simp only [Site.route, served]

theorem isPreflight_of_method {request : Http.Request} (method : request.method ≠ "OPTIONS") :
    Http.Cors.isPreflight request = false := by
  rw [Http.Cors.isPreflight, decide_eq_false method, Bool.false_and]

/-- A response with the grants to the origin of the request. -/
def Site.granted (site : Site) (request : Http.Request) (response : Http.Response) :
    Http.Response :=
  match request.header? "origin" with
  | some origin => Http.Cors.grant (Site.corsPolicy site.settings) request origin response
  | none => response

theorem granted_status_content (site : Site) (request : Http.Request) (response : Http.Response) :
    (site.granted request response).status = response.status ∧
      (site.granted request response).content = response.content := by
  rw [Site.granted]
  split
  · exact grant_status_content _ request _ response
  · exact ⟨rfl, rfl⟩

/-- A request that reaches the application: it names no origin, or asks for no leave. -/
def Passes (request : Http.Request) : Prop :=
  request.header? "origin" = none ∨ Http.Cors.isPreflight request = false

theorem not_passes_iff (request : Http.Request) :
    ¬ Passes request ↔
      ∃ origin, request.header? "origin" = some origin ∧ Http.Cors.isPreflight request = true := by
  rw [Passes, not_or, Bool.not_eq_false, ← ne_eq, Option.ne_none_iff_exists', exists_and_right]

/-- The reply to a request that passes, from what the application makes of it. -/
def Site.passed (site : Site) (request : Http.Request) :
    Except Crash Http.Response × List LogRecord → Site.Reply
  | (.ok response, log) =>
      { response := site.granted request response
        log := keptAt (Site.logLevel site.settings) log }
  | (.error crash, log) =>
      { response := Site.crashResponse
        log := keptAt (Site.logLevel site.settings) (log ++ [Site.crashRecord crash])
        crash := some crash }

theorem Site.respond_of_passes {request : Http.Request} (passes : Passes request) (site : Site)
    (now : String) : site.respond now request = site.passed request (site.route now request) := by
  rcases outcome : site.route now request with ⟨answer, log⟩
  simp only [Site.respond, Site.reply, outcome]
  unfold Site.passed Site.granted
  cases sent : request.header? "origin" with
  | none => cases answer <;> rfl
  | some origin =>
      have asksNot : Http.Cors.isPreflight request = false := by
        refine passes.resolve_left ?_
        rw [sent]
        exact Option.some_ne_none origin
      simp only [asksNot]
      cases answer <;> rfl

theorem Site.respond_of_preflight {request : Http.Request} {origin : String}
    (sent : request.header? "origin" = some origin)
    (asks : Http.Cors.isPreflight request = true) (site : Site) (now : String) :
    site.respond now request =
      { response := Http.Cors.preflight (Site.corsPolicy site.settings) request origin
        log := [] } := by
  simp only [Site.respond, Site.reply, sent, asks]
  rfl

/-- What a client may receive: the answer to a preflight, which the application does not see, the
response of a route with its grants, or the response to a crash without any. -/
inductive Site.Replied (site : Site) (now : String) (request : Http.Request) :
    Http.Response → Option Crash → Prop
  | preflight (origin : String) (sent : request.header? "origin" = some origin)
      (asks : Http.Cors.isPreflight request = true) :
      Replied site now request
        (Http.Cors.preflight (Site.corsPolicy site.settings) request origin) none
  | answered (response : Http.Response) (routed : (site.route now request).1 = .ok response) :
      Replied site now request (site.granted request response) none
  | crashed (crash : Crash) (failed : (site.route now request).1 = .error crash) :
      Replied site now request Site.crashResponse (some crash)

theorem Site.replied (site : Site) (now : String) (request : Http.Request) :
    site.Replied now request (site.respond now request).response
      (site.respond now request).crash := by
  by_cases passes : Passes request
  · rw [Site.respond_of_passes passes]
    rcases outcome : site.route now request with ⟨answer, log⟩
    have routed : (site.route now request).1 = answer := by rw [outcome]
    cases answer with
    | ok response => exact .answered response routed
    | error crash => exact .crashed crash routed
  · obtain ⟨origin, sent, asks⟩ := (not_passes_iff request).mp passes
    rw [Site.respond_of_preflight sent asks]
    exact .preflight origin sent asks

theorem respond_of_route {site : Site} {now : String} {request : Http.Request}
    {response : Http.Response} (method : request.method ≠ "OPTIONS")
    (routed : (site.route now request).1 = .ok response) :
    (site.respond now request).response.status = response.status ∧
      (site.respond now request).response.content = response.content := by
  have replied := site.replied now request
  generalize (site.respond now request).response = received at replied ⊢
  generalize (site.respond now request).crash = crash at replied
  cases replied with
  | preflight _ _ asks => cases asks.symm.trans (isPreflight_of_method method)
  | answered _ own =>
      cases routed.symm.trans own
      exact granted_status_content site request response
  | crashed _ failed => cases routed.symm.trans failed

end SavingsSite.Service
