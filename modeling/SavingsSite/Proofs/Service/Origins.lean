import SavingsSite.Proofs.Http.Grants
import SavingsSite.Proofs.Service.Plan
import SavingsSite.Proofs.Settings.Origins

set_option autoImplicit false

/-! What a site in production says to other origins. Whatever the kind of the answer, it names no
origin but that of the request, and this one only if it stands in the text of the settings. It may
name others only when a handler writes such a header itself. -/

namespace SavingsSite.Service

open Http (valuesOf)
open Http.Cors (originHeader)

/-- An endpoint whose answers name no origin themselves. -/
def Endpoint.NamesNoOrigin (page : String → Http.Request → Outcome) (endpoint : Endpoint) : Prop :=
  ∀ context kind request params response,
    (endpoint.handle page context kind request params).outcome.respond = .ok response →
      valuesOf originHeader response.headers = []

def Site.NamesNoOrigin (site : Site) : Prop :=
  ∀ method path route params, Routing.dispatch site.table method path = .serve route params →
    route.endpoint.NamesNoOrigin site.page

/-! ### The endpoints of the site -/

def Outcome.isPlain : Outcome → Bool
  | response sent => sent.headers.isEmpty
  | failed (.refused _ _ headers) => headers.isEmpty
  | failed _ => true

theorem headers_of_jsonResponse {status : Int} {value : Json} {headers : List (String × String)}
    {response : Http.Response} (responds : jsonResponse status value headers = .ok response) :
    response.headers = headers := by
  rcases jsonResponse_cases status value headers with ⟨_, sent⟩ | ⟨_, crash, failed⟩
  · cases sent.symm.trans responds
    rfl
  · cases failed.symm.trans responds

theorem headers_of_withHeaders {own response : Http.Response}
    (responds : withHeaders own = .ok response) : response.headers = own.headers := by
  unfold withHeaders at responds
  split at responds
  · cases responds
  · cases responds
    rfl

theorem headers_of_respond {outcome : Outcome} (plain : outcome.isPlain = true)
    {response : Http.Response} (responds : outcome.respond = .ok response) :
    response.headers = [] := by
  cases outcome with
  | response sent =>
      obtain ⟨status, headers, content⟩ := sent
      have none : headers = [] := List.isEmpty_iff.mp plain
      cases content with
      | json value => exact (headers_of_jsonResponse responds).trans none
      | _ =>
          cases responds
          exact none
  | failed failure =>
      cases failure with
      | site fault => exact headers_of_jsonResponse responds
      | invalid errors => exact headers_of_jsonResponse responds
      | crash crash => cases responds
      | refused status detail headers =>
          have none : headers = [] := List.isEmpty_iff.mp plain
          simp only [Outcome.respond, refusal, none] at responds
          split at responds
          · exact headers_of_withHeaders responds
          · split at responds
            · cases responds
            · exact (headers_of_withHeaders responds).trans (headers_of_jsonResponse ‹_›)

theorem shownAfter_isPlain (last : Accordion → List LogRecord)
    (clicks : Except Crash (AccordionRun Unit) × List AccordionEvent) :
    (shownAfter last clicks).outcome.isPlain = true := by
  unfold shownAfter
  split <;> rfl

theorem indexFault?_isPlain {index : Int} {failure : Failure}
    (found : indexFault? index = some failure) : (Outcome.failed failure).isPlain = true := by
  unfold indexFault? at found
  split at found
  · split at found
    · cases found
      rfl
    · cases found
      rfl
  · cases found

theorem showAccordion_isPlain (openIndex : Option Int) :
    (showAccordion openIndex).outcome.isPlain = true := by
  unfold showAccordion
  split
  · obtain ⟨index, _, found⟩ := Option.bind_eq_some_iff.mp ‹_›
    exact indexFault?_isPlain found
  · exact shownAfter_isPlain _ _

theorem toggleItem_isPlain (openIndex : Option Int) (index : Int) :
    (toggleItem openIndex index).outcome.isPlain = true := by
  unfold toggleItem
  split
  · rcases Option.or_eq_some_iff.mp ‹_› with before | ⟨_, own⟩
    · obtain ⟨_, _, found⟩ := Option.bind_eq_some_iff.mp before
      exact indexFault?_isPlain found
    · exact indexFault?_isPlain own
  · exact shownAfter_isPlain _ _

theorem getAccordion_isPlain (request : Http.Request) :
    (getAccordion request).outcome.isPlain = true := by
  unfold getAccordion
  split
  · exact showAccordion_isPlain none
  · split
    · rfl
    · exact showAccordion_isPlain _
    · exact showAccordion_isPlain none

theorem toggleOf_isPlain (value : Json) : (toggleOf value).outcome.isPlain = true := by
  unfold toggleOf
  split
  · rfl
  · exact toggleItem_isPlain _ _

theorem postToggle_isPlain (request : Http.Request) :
    (postToggle request).outcome.isPlain = true := by
  unfold postToggle
  split
  · rfl
  · exact toggleOf_isPlain _
  · rfl
  · rfl
  · split
    · exact toggleOf_isPlain _
    · rfl

theorem namesNoOrigin_of_own (page : String → Http.Request → Outcome) {endpoint : Endpoint}
    (own : endpoint.isCustom = false) (pages : ∀ path request, (page path request).isPlain = true) :
    endpoint.NamesNoOrigin page := by
  intro context kind request params response responds
  have plain : (endpoint.handle page context kind request params).outcome.isPlain = true := by
    cases endpoint with
    | documentation path => exact pages path request
    | accordion => exact getAccordion_isPlain request
    | toggle => exact postToggle_isPlain request
    | custom handle => cases own
    | _ => rfl
  rw [headers_of_respond plain responds]
  rfl

/-! ### Any site -/

theorem headers_of_refusal {methods : List String} {response : Http.Response}
    (refused : Site.refusal methods = .ok response) :
    ∀ header ∈ response.headers, header.1 = "allow" := by
  simp only [Site.refusal] at refused
  split at refused
  · cases refused
  · cases refused
    exact List.forall_mem_singleton.mpr rfl

theorem valuesOf_route {site : Site} (unnamed : site.NamesNoOrigin) {now : String}
    {request : Http.Request} {response : Http.Response}
    (routed : (site.route now request).1 = .ok response) :
    valuesOf originHeader response.headers = [] := by
  have allow : "allow" ≠ originHeader := by decide
  have location : "location" ≠ originHeader := by decide
  unfold Site.route at routed
  split at routed
  · exact unnamed _ _ _ _ ‹_› _ _ _ _ response routed
  · apply Http.valuesOf_eq_nil
    intro header member
    rw [headers_of_refusal routed header member]
    exact allow
  · cases routed
    exact Http.valuesOf_eq_nil (List.forall_mem_singleton.mpr location)
  · cases routed
    rfl
  · cases routed

/-- Under a policy that lists origins, an answer names the origin of the request when it is listed,
unless the answer is that to a crash. -/
theorem valuesOf_respond {site : Site} (unnamed : site.NamesNoOrigin) {origins : List String}
    (policy : Site.corsPolicy site.settings = .listed origins) (now : String)
    (request : Http.Request) :
    valuesOf originHeader (site.respond now request).response.allHeaders =
      match request.header? "origin", (site.respond now request).crash with
      | some origin, none => if origin ∈ origins then [origin] else []
      | _, _ => [] := by
  rw [Http.valuesOf_allHeaders (by decide)]
  have replied := site.replied now request
  generalize (site.respond now request).response = received at replied ⊢
  generalize (site.respond now request).crash = crash at replied ⊢
  cases replied with
  | preflight origin sent =>
      rw [sent, policy, Http.Cors.valuesOf_preflight]
      simp only [Http.Cors.Policy.allows, List.contains_iff_mem]
  | answered response routed =>
      have noName := valuesOf_route unnamed routed
      rw [Site.granted, policy]
      cases request.header? "origin" with
      | none => exact noName
      | some origin =>
          dsimp only
          rw [Http.Cors.valuesOf_grant, noName]
  | crashed crash => cases request.header? "origin" <;> rfl

/-- In production, with origins that do not allow all and handlers that name none, an answer names one
origin or none. It names the origin of the request exactly when that is listed and no crash is behind
the answer. -/
theorem production_names_listed_origins (docs : Documentation) (settings : Settings)
    (modules : List (FeatureModule Endpoint)) (site : Site)
    (created : (create docs settings modules).site = .ok site) (unnamed : site.NamesNoOrigin)
    (production : settings.isProduction = true) (closed : "*" ∉ settings.allowedOrigins)
    (now : String) (request : Http.Request) :
    let reply := site.respond now request
    let named := valuesOf originHeader reply.response.allHeaders
    (∃ origin, request.header? "origin" = some origin ∧
      Settings.IsListed settings.origins origin ∧ reply.crash = none ∧ named = [origin]) ∨
    (named = [] ∧ ∀ origin, request.header? "origin" = some origin →
      Settings.IsListed settings.origins origin → reply.crash ≠ none) := by
  intro reply named
  obtain ⟨_, rfl⟩ := (create_site_eq_ok_iff settings modules site).mp created
  have policy : Site.corsPolicy settings = .listed settings.allowedOrigins := by
    have unlisted : settings.allowedOrigins.contains "*" = false :=
      Bool.eq_false_iff.mpr (mt List.contains_iff_mem.mp closed)
    rw [Site.corsPolicy, if_pos production, Http.Cors.Policy.ofList, unlisted]
    rfl
  have values : named = match request.header? "origin", reply.crash with
      | some origin, none => if origin ∈ settings.allowedOrigins then [origin] else []
      | _, _ => [] :=
    valuesOf_respond unnamed policy now request
  cases sent : request.header? "origin" with
  | none =>
      rw [sent] at values
      exact Or.inr ⟨values, nofun⟩
  | some origin =>
      rw [sent] at values
      cases ended : reply.crash with
      | some crash =>
          rw [ended] at values
          exact Or.inr ⟨values, fun _ _ _ => Option.some_ne_none crash⟩
      | none =>
          rw [ended] at values
          by_cases listed : origin ∈ settings.allowedOrigins
          · simp only [if_pos listed] at values
            exact Or.inl ⟨origin, rfl, (Settings.mem_originList_iff _ _).mp listed, rfl, values⟩
          · simp only [if_neg listed] at values
            refine Or.inr ⟨values, ?_⟩
            rintro _ ⟨⟩ isListed
            exact absurd ((Settings.mem_originList_iff _ _).mpr isListed) listed

theorem shipped_namesNoOrigin (docs : Documentation) (settings : Settings)
    (plain : ∀ table path request, (docs.page settings table path request).isPlain = true) :
    (shippedSite docs settings).NamesNoOrigin := by
  intro method path route params served
  have own := isCustom_of_served docs settings (.refl defaultModules) served
  exact namesNoOrigin_of_own _ own (plain _)

theorem production_names_listed_origins_second :
    let settings : Settings :=
      { rpcUrl := "https://rpc", stage := .production, origins := "https://a, https://b" }
    let request : Http.Request :=
      { method := "OPTIONS", path := "/api/v1/health", query := "",
        headers := [("origin", "https://b"), ("access-control-request-method", "GET")],
        body := [] }
    settings.isProduction = true ∧ "*" ∉ settings.allowedOrigins ∧
      ∃ site, (create .blank settings defaultModules).site = .ok site ∧ site.NamesNoOrigin ∧
        valuesOf originHeader (site.respond "" request).response.allHeaders = ["https://b"] := by
  intro settings request
  have production : settings.isProduction = true := rfl
  have closed : "*" ∉ settings.allowedOrigins := by decide +kernel
  obtain ⟨site, created⟩ : ∃ site, (create .blank settings defaultModules).site = .ok site :=
    ⟨_, create_shipped .blank settings⟩
  have unnamed : site.NamesNoOrigin := by
    cases created.symm.trans (create_shipped .blank settings)
    exact shipped_namesNoOrigin .blank settings fun _ _ _ => rfl
  refine ⟨production, closed, site, created, unnamed, ?_⟩
  have uncrashed : (site.respond "" request).crash = none := by
    cases created.symm.trans (create_shipped .blank settings)
    rfl
  rcases production_names_listed_origins .blank settings defaultModules site created unnamed
    production closed "" request with ⟨origin, sent, _, _, named⟩ | ⟨_, crashed⟩
  · cases sent
    exact named
  · have isListed : Settings.IsListed settings.origins "https://b" := by
      rw [← Settings.mem_originList_iff]
      decide +kernel
    exact absurd uncrashed (crashed "https://b" rfl isListed)

/-- A module with a handler that grants its answer to one origin by itself. -/
def grantingModule : FeatureModule Endpoint :=
  fixedModule "granting" "Granting" [("GET", "/open", .custom fun _ _ _ _ =>
    { outcome := .response
        { status := 200, headers := [(originHeader, "https://other")], content := .empty } })]

theorem handler_names_unlisted_origin :
    let settings : Settings :=
      { rpcUrl := "https://rpc", stage := .production, origins := "https://a, https://b" }
    let request : Http.Request :=
      { method := "GET", path := "/api/v1/open", query := "",
        headers := [("origin", "https://other")], body := [] }
    settings.isProduction = true ∧ "*" ∉ settings.allowedOrigins ∧
      ¬ Settings.IsListed settings.origins "https://other" ∧
      ∃ site, (create .blank settings [grantingModule]).site = .ok site ∧
        valuesOf originHeader (site.respond "" request).response.allHeaders =
          ["https://other"] := by
  intro settings request
  have closed : "*" ∉ settings.allowedOrigins := by decide +kernel
  have unlisted : ¬ Settings.IsListed settings.origins "https://other" := by
    rw [← Settings.mem_originList_iff]
    decide +kernel
  obtain ⟨site, created⟩ : ∃ site, (create .blank settings [grantingModule]).site = .ok site :=
    ⟨_, rfl⟩
  obtain ⟨_, rfl⟩ := (create_site_eq_ok_iff settings [grantingModule] site).mp created
  refine ⟨rfl, closed, unlisted, _, created, ?_⟩
  decide +kernel

end SavingsSite.Service
