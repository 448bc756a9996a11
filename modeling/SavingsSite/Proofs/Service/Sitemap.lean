import SavingsSite.Proofs.Service.Robustness

set_option autoImplicit false

/-! What becomes of every path and method. Each path of the site serves one method and refuses the
others, a path that is one of them up to its last slash leads there, and all others lead nowhere.
The order of the modules makes no difference. -/

namespace SavingsSite.Service

open Routing
open Http (Request)

/-! ### The places of the site -/

/-- A path of the site, the method that it serves, and the endpoint that serves it. -/
structure Place where
  method : String
  path : String
  endpoint : Endpoint

/-- The paths below the base of the interface, and the root. -/
def places : List Place := [
  ⟨"GET", "/api/v1/health", .health⟩,
  ⟨"GET", "/api/v1/health/ready", .readiness⟩,
  ⟨"GET", "/api/v1/health/live", .liveness⟩,
  ⟨"GET", "/api/v1/blockchain/status", .chainStatus⟩,
  ⟨"GET", "/api/v1/faq", .faqList⟩,
  ⟨"GET", "/api/v1/faq/accordion", .accordion⟩,
  ⟨"POST", "/api/v1/faq/accordion/toggle", .toggle⟩,
  ⟨"GET", "/api/v1/content/hero", .hero⟩,
  ⟨"GET", "/", .root⟩]

/-- The path of a page of documentation, or one that leads there. -/
def IsDocumentation (path : String) : Prop :=
  ∃ page ∈ documentationPaths, IsAt page path ∨ ∃ other, SlashChange path other ∧ IsAt page other

theorem isDocumentation_iff (path : String) :
    IsDocumentation path ↔
      ∃ page ∈ documentationPaths, IsAt page path ∨ IsAt page (otherPath path) := by
  simp only [IsDocumentation, slashChange_iff, exists_eq_left]

instance (path : String) : Decidable (IsDocumentation path) :=
  decidable_of_iff _ (isDocumentation_iff path).symm

theorem mem_shippedPlan_iff (plan : RouteKind × String × List String × Endpoint) :
    plan ∈ shippedPlan ↔
      (∃ page ∈ documentationPaths, (.plain, page, ["GET", "HEAD"], .documentation page) = plan) ∨
      ∃ place ∈ places, (.interface, place.path, [place.method], place.endpoint) = plan := by
  have split : shippedPlan =
      documentationPaths.map (fun page => (.plain, page, ["GET", "HEAD"], .documentation page)) ++
        places.map fun place => (.interface, place.path, [place.method], place.endpoint) := rfl
  rw [split, List.mem_append, List.mem_map, List.mem_map]

/-- No route of the site stands at a path when no page of documentation does, and no place. -/
theorem forall_plan_iff (path : String) :
    (∀ plan ∈ shippedPlan, ¬ IsAt plan.2.1 path) ↔
      (∀ page ∈ documentationPaths, ¬ IsAt page path) ∧ ∀ place ∈ places, ¬ IsAt place.path path := by
  constructor
  · intro nowhere
    exact ⟨fun page member => nowhere _ ((mem_shippedPlan_iff _).mpr (Or.inl ⟨page, member, rfl⟩)),
      fun place member => nowhere _ ((mem_shippedPlan_iff _).mpr (Or.inr ⟨place, member, rfl⟩))⟩
  · rintro ⟨noPage, noPlace⟩ plan member
    rcases (mem_shippedPlan_iff plan).mp member with ⟨page, isPage, rfl⟩ | ⟨place, isPlace, rfl⟩
    · exact noPage page isPage
    · exact noPlace place isPlace

/-! ### Answers at a place -/

/-- What the endpoint of a place answers to a request. -/
def Place.answer (place : Place) (site : Site) (now : String) (request : Request) :
    Except Crash Http.Response × List LogRecord :=
  let handled := place.endpoint.handle site.page ⟨site.settings, now⟩ .interface request []
  (handled.outcome.respond, handled.log)

def Place.refusal (place : Place) : Http.Response where
  status := 405
  headers := [("allow", place.method)]
  content := .json (Json.ofFields [("detail", Json.ofString "Method Not Allowed")])

theorem refusal_place {place : Place} (member : place ∈ places) :
    Site.refusal [place.method] = .ok place.refusal := by
  have methods : ∀ place ∈ places, place.method ∈ ["GET", "POST"] := by decide
  have method := methods place member
  rw [Place.refusal]
  generalize place.method = name at method ⊢
  simp only [List.mem_cons, List.not_mem_nil, or_false] at method
  rcases method with rfl | rfl <;> rfl

variable (docs : Documentation)

theorem route_place (settings : Settings) {modules : List (FeatureModule Endpoint)}
    (order : modules.Perm defaultModules) (now : String) {request : Request} {place : Place}
    (member : place ∈ places) (here : IsAt place.path request.path) :
    (application docs settings modules).route now request =
      if request.method = place.method then
        place.answer (application docs settings modules) now request
      else (.ok place.refusal, []) := by
  have planMember := (mem_shippedPlan_iff _).mpr (Or.inr ⟨place, member, rfl⟩)
  have served := dispatch_at docs settings order planMember request.method here
  have serves : (planned (.interface, place.path, [place.method], place.endpoint)).serves
      request.method = decide (request.method = place.method) := by
    simp only [planned, Route.serves, List.isEmpty_cons, Bool.false_or, List.contains_cons,
      List.contains_nil, Bool.or_false]
    rfl
  rw [serves] at served
  by_cases own : request.method = place.method
  · simp only [own, decide_true, if_true] at served
    simp only [Site.route, own, served, if_true]
    rfl
  · simp only [own, decide_false, Bool.false_eq_true, if_false] at served
    simp only [Site.route, served, own, if_false, planned, refusal_place member]

theorem places_endpoints :
    ∀ place ∈ places, place.endpoint.isSteady = true ∨ place.endpoint.isToggle = true := by
  decide

theorem place_status {place : Place} (member : place ∈ places) {site : Site} {now : String}
    {request : Request} {response : Http.Response}
    (answers : (place.answer site now request).1 = .ok response) :
    response.status ∈ ([200, 400, 404, 422] : List Int) := by
  have of_answered {statuses : List Int} (within : statuses ⊆ [200, 400, 404, 422])
      (answered : Answered statuses (place.answer site now request).1) :
      response.status ∈ ([200, 400, 404, 422] : List Int) := by
    obtain ⟨own, responds, status⟩ := answered
    cases answers.symm.trans responds
    exact within status
  rcases places_endpoints place member with steady | toggle
  · exact of_answered (by decide) (handle_steady _ _ _ _ _ steady)
  · have endpoint : place.endpoint = .toggle := by
      revert toggle
      cases place.endpoint <;> simp [Endpoint.isToggle]
    have toggled : (place.answer site now request).1 = (postToggle request).outcome.respond := by
      rw [Place.answer, endpoint]
      rfl
    rcases postToggle_cases request with ⟨_, crash, failed⟩ | ⟨_, answered, _⟩
    · cases answers.symm.trans (toggled.trans failed)
    · exact of_answered (List.Subset.refl _) (toggled ▸ answered)

theorem status_place (settings : Settings) {modules : List (FeatureModule Endpoint)}
    (order : modules.Perm defaultModules) (now : String) {request : Request} {place : Place}
    (member : place ∈ places) (here : IsAt place.path request.path) :
    ((application docs settings modules).respond now request).response.status ≠ 307 := by
  have routed := route_place docs settings order now member here
  have replied := (application docs settings modules).replied now request
  generalize (application docs settings modules).respond now request = reply at replied ⊢
  generalize reply.response = received at replied ⊢
  generalize reply.crash = crash at replied
  cases replied with
  | preflight origin =>
      have status := preflight_status
        (Site.corsPolicy (application docs settings modules).settings) request origin
      intro redirected
      rw [redirected] at status
      exact absurd status (by decide)
  | answered response answers =>
      rw [(granted_status_content _ request response).1]
      rw [routed] at answers
      split at answers
      · have status := place_status member answers
        intro redirected
        rw [redirected] at status
        exact absurd status (by decide)
      · cases answers
        exact (by decide : (405 : Int) ≠ 307)
  | crashed => exact (by decide : (500 : Int) ≠ 307)

/-! ### Addresses -/

def escaped (text : String) : String :=
  String.ofList (Text.percentEncode Text.isAddressChar text.toList)

theorem escaped_append (a b : String) : escaped (a ++ b) = escaped a ++ escaped b := by
  rw [escaped, String.toList_append, Text.percentEncode, List.flatMap_append, String.ofList_append]
  rfl

/-- The answer that sends a request to another path of the same host, with the same query. -/
def redirection (request : Request) (path : String) : Http.Response where
  status := 307
  headers := [("location",
    escaped ("http://" ++ (request.header? "host").getD "localhost") ++ escaped path ++
      escaped (if request.query = "" then "" else "?" ++ request.query))]
  content := .empty

theorem address_eq (request : Request) (path : String) :
    Site.address request path =
      escaped ("http://" ++ (request.header? "host").getD "localhost") ++ escaped path ++
        escaped (if request.query = "" then "" else "?" ++ request.query) := by
  rw [← escaped_append, ← escaped_append]
  rfl

theorem escaped_place {place : Place} (member : place ∈ places) {path : String}
    (here : IsAt place.path path) :
    escaped path = place.path ∨ escaped path = place.path ++ "%0A" := by
  have plain : ∀ place ∈ places, escaped place.path = place.path := by decide +kernel
  rcases eq_of_isAt here with rfl | rfl
  · exact Or.inl (plain place member)
  · refine Or.inr ?_
    rw [escaped_append, plain place member]
    rfl

theorem route_away (settings : Settings) {modules : List (FeatureModule Endpoint)}
    (order : modules.Perm defaultModules) (now : String) {request : Request}
    (undocumented : ¬ IsDocumentation request.path)
    (nowhere : ∀ place ∈ places, ¬ IsAt place.path request.path) :
    (∀ place ∈ places, IsAt place.path (otherPath request.path) →
      (application docs settings modules).route now request =
        (.ok (redirection request (otherPath request.path)), [])) ∧
    ((∀ place ∈ places, ¬ IsAt place.path (otherPath request.path)) →
      (application docs settings modules).route now request =
        (.ok (Http.detailResponse 404 "Not Found"), [])) := by
  have noPage : ∀ page ∈ documentationPaths, ¬ IsAt page request.path :=
    fun page member here => undocumented ⟨page, member, Or.inl here⟩
  have noOtherPage : ∀ page ∈ documentationPaths, ¬ IsAt page (otherPath request.path) :=
    fun page member there =>
      undocumented ⟨page, member, Or.inr ⟨_, (slashChange_iff _ _).mpr rfl, there⟩⟩
  have unplanned := (forall_plan_iff request.path).mpr ⟨noPage, nowhere⟩
  obtain ⟨redirects, misses⟩ := dispatch_away docs settings order request.method unplanned
  constructor
  · intro place member there
    have planMember := (mem_shippedPlan_iff _).mpr (Or.inr ⟨place, member, rfl⟩)
    simp only [Site.route, redirects _ planMember there, address_eq]
    rfl
  · intro nothing
    have unplannedOther := (forall_plan_iff _).mpr ⟨noOtherPage, nothing⟩
    simp only [Site.route, misses unplannedOther]

/-! ### All paths -/

/-- In any order of the modules, a place serves its method and refuses the others; a path that is
that of a place but for its last slashes leads there, and does so at once; and nothing else is
found. -/
theorem shipped_routing (docs : Documentation) (settings : Settings)
    (modules : List (FeatureModule Endpoint)) (order : modules.Perm defaultModules) :
    ∃ site, (create docs settings modules).site = .ok site ∧ ∀ now request,
      request.header? "origin" = none → ¬ IsDocumentation request.path →
      let reply := site.respond now request
      (∀ place ∈ places, IsAt place.path request.path →
        (request.method = place.method →
          reply = site.passed request (place.answer site now request)) ∧
        (request.method ≠ place.method → reply = { response := place.refusal, log := [] })) ∧
      ((∀ place ∈ places, ¬ IsAt place.path request.path) →
        ∃ other, SlashChange request.path other ∧
          (∀ place ∈ places, IsAt place.path other →
            reply = { response := redirection request other, log := [] } ∧
            (escaped other = place.path ∨ escaped other = place.path ++ "%0A") ∧
            ∀ later next, next.path = other →
              (site.respond later next).response.status ≠ 307) ∧
          ((∀ place ∈ places, ¬ IsAt place.path other) →
            reply = { response := Http.detailResponse 404 "Not Found", log := [] })) := by
  refine ⟨application docs settings modules, create_reordered docs settings order, ?_⟩
  intro now request unnamed undocumented reply
  have passed : reply = (application docs settings modules).passed request
      ((application docs settings modules).route now request) :=
    Site.respond_of_passes (Or.inl unnamed) _ now
  have plain (response : Http.Response) :
      (application docs settings modules).passed request (.ok response, []) =
        { response, log := [] } := by
    simp only [Site.passed, Site.granted, unnamed]
    rfl
  constructor
  · intro place member here
    rw [route_place docs settings order now member here] at passed
    constructor
    · intro own
      rwa [if_pos own] at passed
    · intro foreign
      rwa [if_neg foreign, plain] at passed
  · intro nowhere
    obtain ⟨redirects, misses⟩ := route_away docs settings order now undocumented nowhere
    refine ⟨otherPath request.path, (slashChange_iff _ _).mpr rfl, ?_, ?_⟩
    · intro place member there
      refine ⟨?_, escaped_place member there, ?_⟩
      · rwa [redirects place member there, plain] at passed
      · rintro later next path
        rw [← path] at there
        exact status_place docs settings order later member there
    · intro nothing
      rwa [misses nothing, plain] at passed

/-- A client that puts a slash behind a path with a line end is sent to that path, and refused. -/
theorem shipped_routing_reversed :
    let sent (path : String) : Request :=
      { method := "PUT", path, query := "", headers := [], body := [] }
    defaultModules.reverse.Perm defaultModules ∧ ∃ site,
      (create .blank { rpcUrl := "https://rpc" } defaultModules.reverse).site = .ok site ∧
      (site.respond "" (sent "/api/v1/faq\n/")).response.headers =
        [("location", "http://localhost/api/v1/faq%0A")] ∧
      (site.respond "" (sent "/api/v1/faq\n")).response.headers = [("allow", "GET")] := by
  intro sent
  have order : defaultModules.reverse.Perm defaultModules := List.reverse_perm defaultModules
  have faq : ⟨"GET", "/api/v1/faq", .faqList⟩ ∈ places := by simp [places]
  have elsewhere : ∀ place ∈ places, ¬ IsAt place.path "/api/v1/faq\n/" := by decide +kernel
  obtain ⟨site, created, answers⟩ :=
    shipped_routing .blank { rpcUrl := "https://rpc" } defaultModules.reverse order
  refine ⟨order, site, created, ?_, ?_⟩
  · obtain ⟨other, change, leads, _⟩ :=
      (answers "" (sent "/api/v1/faq\n/") rfl (by decide +kernel)).2 elsewhere
    have there : other = "/api/v1/faq\n" := by
      rw [(slashChange_iff _ _).mp change]
      decide +kernel
    obtain ⟨redirected, _⟩ := leads _ faq (there ▸ Or.inr rfl)
    rw [redirected, there]
    decide +kernel
  · have here : IsAt "/api/v1/faq" "/api/v1/faq\n" := by decide +kernel
    have refused :=
      ((answers "" (sent "/api/v1/faq\n") rfl (by decide +kernel)).1 _ faq here).2 (by decide)
    rw [refused]
    rfl

end SavingsSite.Service
