import SavingsSite.Proofs.Service.Plan

set_option autoImplicit false

/-! What can be seen of the settings from outside. Answers depend on the chain that the settings
name, on the stage and, in production, on which origins are listed. Where the server listens, what it
logs and how the origins are written down cannot be told from any answer. -/

namespace SavingsSite

namespace Http

/-! ### Policies -/

namespace Cors

/-- Two policies with the same answers: both allow all origins, or both list the same ones. -/
inductive Policy.Alike : Policy → Policy → Prop
  | all : Alike .all .all
  | listed {origins others : List String} (same : ∀ origin, origin ∈ origins ↔ origin ∈ others) :
      Alike (.listed origins) (.listed others)

namespace Policy.Alike

variable {policy other : Policy}

theorem allows (alike : policy.Alike other) (origin : String) :
    policy.allows origin = other.allows origin := by
  cases alike with
  | all => rfl
  | listed same =>
      rw [Policy.allows, Policy.allows, Bool.eq_iff_iff, List.contains_iff_mem,
        List.contains_iff_mem]
      exact same origin

theorem grant (alike : policy.Alike other) (request : Request) (origin : String)
    (response : Response) :
    grant policy request origin response = grant other request origin response := by
  have allowed := alike.allows origin
  cases alike with
  | all => rfl
  | listed same =>
      unfold Cors.grant
      rw [allowed]

theorem preflight (alike : policy.Alike other) (request : Request) (origin : String) :
    preflight policy request origin = preflight other request origin := by
  unfold Cors.preflight failures
  rw [alike.allows origin]

end Policy.Alike

theorem Policy.ofList_alike {origins others : List String}
    (same : ∀ origin, origin ∈ origins ↔ origin ∈ others) :
    (Policy.ofList origins).Alike (Policy.ofList others) := by
  unfold Policy.ofList
  by_cases every : "*" ∈ origins
  · rw [if_pos (List.contains_iff_mem.mpr every),
      if_pos (List.contains_iff_mem.mpr ((same "*").mp every))]
    exact .all
  · rw [if_neg (mt List.contains_iff_mem.mp every),
      if_neg (mt List.contains_iff_mem.mp (mt (same "*").mpr every))]
    exact .listed same

end Cors

/-! ### The time of an answer -/

def Content.untimed : Content → Content
  | .json (.record fields) => .json (.record (fields.filter (·.1 ≠ .sound "timestamp")))
  | content => content

def Response.untimed (response : Response) : Response :=
  { response with content := response.content.untimed }

theorem Cors.grant_untimed (policy : Policy) (request : Request) (origin : String)
    (response : Response) :
    (grant policy request origin response).untimed =
      grant policy request origin response.untimed := by
  unfold grant
  cases policy with
  | all =>
      dsimp only
      split <;> rfl
  | listed origins =>
      dsimp only
      split <;> rfl

end Http

namespace Service

open Routing
open Http (Request)

structure SeenAlike (a b : Settings) : Prop where
  rpcUrl : a.rpcUrl = b.rpcUrl
  network : a.network = b.network
  contractId : a.contractId = b.contractId
  stage : a.stage = b.stage
  origins : a.isProduction = true →
    ∀ origin, origin ∈ a.allowedOrigins ↔ origin ∈ b.allowedOrigins

variable {a b : Settings}

theorem SeenAlike.corsPolicy (alike : SeenAlike a b) :
    (Site.corsPolicy a).Alike (Site.corsPolicy b) := by
  have production : a.isProduction = b.isProduction := by
    rw [Settings.isProduction, Settings.isProduction, alike.stage]
  unfold Site.corsPolicy
  rw [← production]
  by_cases inProduction : a.isProduction = true
  · rw [if_pos inProduction, if_pos inProduction]
    exact Http.Cors.Policy.ofList_alike (alike.origins inProduction)
  · rw [if_neg inProduction, if_neg inProduction]
    exact .all

/-- A documentation that is the same under all settings. -/
def Documentation.IgnoresSettings (docs : Documentation) : Prop :=
  ∀ a b table path request, docs.page a table path request = docs.page b table path request

variable {docs : Documentation}

theorem SeenAlike.handle (alike : SeenAlike a b) (page : String → Request → Outcome)
    (now : String) (kind : RouteKind) (request : Request) (params : List (String × ParamValue))
    {endpoint : Endpoint} (own : endpoint.isCustom = false) :
    endpoint.handle page ⟨a, now⟩ kind request params =
      endpoint.handle page ⟨b, now⟩ kind request params := by
  cases endpoint with
  | custom handle => cases own
  | health => rw [Endpoint.handle, Endpoint.handle, alike.stage]
  | readiness => rw [Endpoint.handle, Endpoint.handle, alike.network]
  | chainStatus =>
      rw [Endpoint.handle, Endpoint.handle, alike.network, alike.rpcUrl, alike.contractId]
  | _ => rfl

theorem page_shipped (blind : docs.IgnoresSettings) (a b : Settings) :
    (shippedSite docs a).page = (shippedSite docs b).page := by
  funext path request
  have table : (shippedSite docs a).table = (shippedSite docs b).table := by
    rw [shipped_table, shipped_table]
  rw [Site.page, Site.page, table]
  exact blind a b _ path request

theorem SeenAlike.route (alike : SeenAlike a b) (blind : docs.IgnoresSettings) (now : String)
    (request : Request) :
    (shippedSite docs a).route now request = (shippedSite docs b).route now request := by
  have table : (shippedSite docs a).table = (shippedSite docs b).table := by
    rw [shipped_table, shipped_table]
  unfold Site.route
  rw [table, page_shipped blind a b]
  cases served : dispatch (shippedSite docs b).table request.method request.path with
  | serve route params =>
      have own := isCustom_of_served docs b (.refl defaultModules) served
      have handled := alike.handle (shippedSite docs b).page now route.kind request params own
      exact congrArg (fun handled : Handled => (handled.outcome.respond, handled.log)) handled
  | _ => rfl

theorem SeenAlike.granted (alike : SeenAlike a b) (request : Request) (response : Http.Response) :
    (shippedSite docs a).granted request response =
      (shippedSite docs b).granted request response := by
  unfold Site.granted
  cases request.header? "origin" with
  | none => rfl
  | some origin => exact alike.corsPolicy.grant request origin response

theorem SeenAlike.respond (alike : SeenAlike a b) (blind : docs.IgnoresSettings) (now : String)
    (request : Request) :
    ((shippedSite docs a).respond now request).response =
      ((shippedSite docs b).respond now request).response := by
  by_cases passes : Passes request
  · rw [Site.respond_of_passes passes, Site.respond_of_passes passes, alike.route blind now request]
    rcases (shippedSite docs b).route now request with ⟨answer, log⟩
    cases answer with
    | ok response => exact alike.granted request response
    | error crash => rfl
  · obtain ⟨origin, sent, asks⟩ := (not_passes_iff request).mp passes
    rw [Site.respond_of_preflight sent asks, Site.respond_of_preflight sent asks]
    exact alike.corsPolicy.preflight request origin

/-! ### Answers at different times -/

/-- The time shows in the answer of an endpoint of the site only where the answer tells it. -/
theorem handle_untimed (page : String → Request → Outcome) (settings : Settings)
    (now later : String) (kind : RouteKind) (request : Request)
    (params : List (String × ParamValue)) {endpoint : Endpoint}
    (own : endpoint.isCustom = false) :
    (endpoint.handle page ⟨settings, now⟩ kind request params).outcome.respond.map
        Http.Response.untimed =
      (endpoint.handle page ⟨settings, later⟩ kind request params).outcome.respond.map
        Http.Response.untimed := by
  have answered {value other : Json} (sound : value.isSound = true)
      (otherSound : other.isSound = true)
      (same : (Http.Content.json value).untimed = (Http.Content.json other).untimed) :
      (Outcome.answer (.json value)).respond.map Http.Response.untimed =
        (Outcome.answer (.json other)).respond.map Http.Response.untimed := by
    rw [respond_answer_of_sound sound, respond_answer_of_sound otherSound]
    simp only [Except.map, Http.Response.untimed, same]
  cases endpoint with
  | health => exact answered rfl rfl rfl
  | readiness => exact answered rfl rfl rfl
  | liveness => exact answered rfl rfl rfl
  | custom handle => cases own
  | _ => rfl

theorem route_untimed (docs : Documentation) (settings : Settings) (now later : String)
    (request : Request) :
    ((shippedSite docs settings).route now request).1.map Http.Response.untimed =
      ((shippedSite docs settings).route later request).1.map Http.Response.untimed := by
  unfold Site.route
  cases served : dispatch (shippedSite docs settings).table request.method request.path with
  | serve route params =>
      have own := isCustom_of_served docs settings (.refl defaultModules) served
      exact handle_untimed _ settings now later _ request params own
  | _ => rfl

theorem granted_untimed (site : Site) (request : Request) (response : Http.Response) :
    (site.granted request response).untimed = site.granted request response.untimed := by
  unfold Site.granted
  cases request.header? "origin" with
  | none => rfl
  | some origin => exact Http.Cors.grant_untimed _ request origin response

theorem passed_untimed (site : Site) (request : Request)
    {outcome later : Except Crash Http.Response × List LogRecord}
    (same : outcome.1.map Http.Response.untimed = later.1.map Http.Response.untimed) :
    (site.passed request outcome).response.untimed =
      (site.passed request later).response.untimed := by
  obtain ⟨answer, log⟩ := outcome
  obtain ⟨laterAnswer, laterLog⟩ := later
  cases answer with
  | error crash =>
      cases laterAnswer with
      | error laterCrash => rfl
      | ok response => cases same
  | ok response =>
      cases laterAnswer with
      | error crash => cases same
      | ok laterResponse =>
          have untimed : response.untimed = laterResponse.untimed := Except.ok.inj same
          rw [Site.passed, Site.passed, granted_untimed, granted_untimed, untimed]

theorem respond_untimed (docs : Documentation) (settings : Settings) (now later : String)
    (request : Request) :
    ((shippedSite docs settings).respond now request).response.untimed =
      ((shippedSite docs settings).respond later request).response.untimed := by
  by_cases passes : Passes request
  · rw [Site.respond_of_passes passes, Site.respond_of_passes passes]
    exact passed_untimed _ request (route_untimed docs settings now later request)
  · obtain ⟨origin, sent, asks⟩ := (not_passes_iff request).mp passes
    rw [Site.respond_of_preflight sent asks, Site.respond_of_preflight sent asks]

/-! ### The shipped application -/

/-- Settings that look the same from outside lead to applications that answer every request alike:
at one time with one response, and at different times with the same but for the time that it
tells. -/
theorem respond_eq_of_seenAlike (docs : Documentation) (blind : docs.IgnoresSettings)
    (a b : Settings) (alike : SeenAlike a b) :
    ∃ siteA siteB, (create docs a defaultModules).site = .ok siteA ∧
      (create docs b defaultModules).site = .ok siteB ∧
      ∀ request now later,
        (siteA.respond now request).response = (siteB.respond now request).response ∧
        (siteA.respond now request).response.untimed =
          (siteB.respond later request).response.untimed := by
  refine ⟨shippedSite docs a, shippedSite docs b, create_shipped docs a, create_shipped docs b, ?_⟩
  intro request now later
  refine ⟨alike.respond blind now request, ?_⟩
  rw [alike.respond blind now request]
  exact respond_untimed docs b now later request

/-- In production the origins may be written down in another order, with blanks and repeated. -/
theorem respond_eq_of_seenAlike_production :
    let a : Settings := {
      rpcUrl := "https://rpc", stage := .production, origins := "https://a,https://b" }
    let b : Settings := {
      rpcUrl := "https://rpc", stage := .production, debug := true, host := "::1", port := 80,
      origins := " https://b,, https://a ,https://b" }
    Documentation.blank.IgnoresSettings ∧ SeenAlike a b ∧ ∃ siteA siteB,
      (create .blank a defaultModules).site = .ok siteA ∧
      (create .blank b defaultModules).site = .ok siteB ∧
      ∀ request now, (∀ page ∈ documentationPaths, ¬ IsAt page request.path) →
        (siteA.respond now request).response = (siteB.respond now request).response := by
  intro a b
  have blind : Documentation.blank.IgnoresSettings := fun _ _ _ _ _ => rfl
  have first : a.allowedOrigins = ["https://a", "https://b"] := by decide +kernel
  have second : b.allowedOrigins = ["https://b", "https://a", "https://b"] := by decide +kernel
  have alike : SeenAlike a b := by
    refine ⟨rfl, rfl, rfl, rfl, fun _ origin => ?_⟩
    rw [first, second]
    simp only [List.mem_cons, List.not_mem_nil, or_false]
    constructor
    · rintro (isA | isB)
      · exact Or.inr (Or.inl isA)
      · exact Or.inl isB
    · rintro (isB | isA | isB)
      · exact Or.inr isB
      · exact Or.inl isA
      · exact Or.inr isB
  obtain ⟨siteA, siteB, madeA, madeB, same⟩ := respond_eq_of_seenAlike .blank blind a b alike
  exact ⟨blind, alike, siteA, siteB, madeA, madeB, fun request now _ => (same request now now).1⟩

end Service

end SavingsSite
