import SavingsSite.Proofs.Http.Grants
import SavingsSite.Proofs.Service.Answers
import SavingsSite.Proofs.Service.Application

set_option autoImplicit false

/-! Which answers a page of another origin can read. An allowed origin can read every answer,
whichever part of the site it comes from, but the answer to a crash. -/

namespace SavingsSite.Service

open Http (Request valuesOf)
open Http.Cors (originHeader Readable)

/-- Outside of production every origin is allowed, and in production those of the settings. -/
def Allows (settings : Settings) (origin : String) : Prop :=
  settings.isProduction = true → origin ∈ settings.allowedOrigins

instance (settings : Settings) (origin : String) : Decidable (Allows settings origin) :=
  inferInstanceAs (Decidable (_ → _))

theorem policy_allows {settings : Settings} {origin : String} (allowed : Allows settings origin) :
    (Site.corsPolicy settings).allows origin = true := by
  rw [Site.corsPolicy]
  split
  next production =>
    have listed := List.contains_iff_mem.mpr (allowed production)
    rw [Http.Cors.Policy.ofList]
    split
    · rfl
    · exact listed
  · rfl

theorem crashResponse_unnamed : valuesOf originHeader Site.crashResponse.allHeaders = [] := by
  rw [Http.valuesOf_allHeaders (by decide)]
  rfl

theorem not_readable_of_unnamed {response : Http.Response}
    (unnamed : valuesOf originHeader response.allHeaders = []) (origin : String) :
    ¬ Readable origin response := by
  rw [Readable, unnamed]
  rintro (all | ⟨named, _⟩)
  · cases all
  · cases named

/-- An allowed origin can read an answer unless there is a crash behind it. Then the answer names no
origin at all. -/
theorem readable_iff_uncrashed (docs : Documentation) (settings : Settings)
    (modules : List (FeatureModule Endpoint))
    (site : Site) (created : (create docs settings modules).site = .ok site) (now : String)
    (request : Request) (origin : String) (sent : request.header? "origin" = some origin)
    (allowed : Allows settings origin) :
    let reply := site.respond now request
    (Readable origin reply.response ↔ reply.crash = none) ∧
      (reply.crash ≠ none →
        reply.response.status = 500 ∧ valuesOf originHeader reply.response.allHeaders = []) := by
  intro reply
  obtain ⟨_, rfl⟩ := (create_site_eq_ok_iff settings modules site).mp created
  have allows : (Site.corsPolicy (application docs settings modules).settings).allows origin = true :=
    policy_allows allowed
  have replied : (application docs settings modules).Replied now request reply.response reply.crash :=
    (application docs settings modules).replied now request
  generalize reply.response = received at replied ⊢
  generalize reply.crash = crash at replied ⊢
  cases replied with
  | preflight own named =>
      cases sent.symm.trans named
      exact ⟨iff_of_true (Http.Cors.readable_preflight allows request) rfl, fun crashed =>
        absurd rfl crashed⟩
  | answered response _ =>
      have readable := Http.Cors.readable_grant allows request response
      have granted : (application docs settings modules).granted request response =
          Http.Cors.grant (Site.corsPolicy (application docs settings modules).settings) request
            origin response := by
        rw [Site.granted, sent]
      rw [granted]
      exact ⟨iff_of_true readable rfl, fun crashed => absurd rfl crashed⟩
  | crashed crash _ =>
      have unreadable := not_readable_of_unnamed crashResponse_unnamed origin
      exact ⟨iff_of_false unreadable (Option.some_ne_none crash), fun _ =>
        ⟨rfl, crashResponse_unnamed⟩⟩

/-- In production a listed origin can read that there is nothing at a path. -/
theorem readable_iff_uncrashed_listed :
    let settings : Settings :=
      { rpcUrl := "https://rpc", stage := .production, origins := "https://a, https://b" }
    let request : Request :=
      { method := "GET", path := "/nowhere", query := "",
        headers := [("origin", "https://b")], body := [] }
    Allows settings "https://b" ∧ ∃ site, (create .blank settings defaultModules).site = .ok site ∧
      request.header? "origin" = some "https://b" ∧
      (site.respond "" request).response.status = 404 ∧
      Readable "https://b" (site.respond "" request).response := by
  intro settings request
  have allowed : Allows settings "https://b" := by decide +kernel
  obtain ⟨site, created⟩ : ∃ site, (create .blank settings defaultModules).site = .ok site :=
    ⟨_, rfl⟩
  have sent : request.header? "origin" = some "https://b" := rfl
  obtain ⟨readable, _⟩ := readable_iff_uncrashed .blank settings defaultModules site created ""
    request "https://b" sent allowed
  obtain ⟨_, rfl⟩ := (create_site_eq_ok_iff settings defaultModules site).mp created
  have missing :
      ((application .blank settings defaultModules).respond "" request).response.status = 404 := by
    decide +kernel
  have uncrashed :
      ((application .blank settings defaultModules).respond "" request).crash = none := by
    rw [← Option.isNone_iff_eq_none]
    decide +kernel
  exact ⟨allowed, _, created, sent, missing, readable.mpr uncrashed⟩

def raisingModule : FeatureModule Endpoint :=
  fixedModule "m" "M" [("GET", "/x", .failing (.crash (.raised "RuntimeError" "boom")))]

theorem raised_error_unreadable :
    let settings : Settings := { rpcUrl := "https://soroban-testnet.stellar.org" }
    let request : Request :=
      { method := "GET", path := "/api/v1/x", query := "",
        headers := [("origin", "https://a.io")], body := [] }
    Allows settings "https://a.io" ∧ request.header? "origin" = some "https://a.io" ∧
      ∃ site, (create .blank settings [raisingModule]).site = .ok site ∧
        (site.respond "" request).response.status = 500 ∧
        valuesOf originHeader (site.respond "" request).response.allHeaders = [] ∧
        ¬ Readable "https://a.io" (site.respond "" request).response := by
  intro settings request
  have allowed : Allows settings "https://a.io" := by decide +kernel
  obtain ⟨site, created⟩ : ∃ site, (create .blank settings [raisingModule]).site = .ok site :=
    ⟨_, rfl⟩
  obtain ⟨_, rfl⟩ := (create_site_eq_ok_iff settings [raisingModule] site).mp created
  have isError :
      ((application .blank settings [raisingModule]).respond "" request).response.status = 500 := by
    decide +kernel
  have unnamed : valuesOf originHeader
      ((application .blank settings [raisingModule]).respond "" request).response.allHeaders =
        [] := by
    decide +kernel
  exact ⟨allowed, rfl, _, created, isError, unnamed, not_readable_of_unnamed unnamed _⟩

end SavingsSite.Service
