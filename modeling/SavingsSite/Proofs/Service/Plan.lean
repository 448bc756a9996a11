import Mathlib.Data.List.Nodup
import SavingsSite.Proofs.Routing.Literal
import SavingsSite.Proofs.Service.Refinement

set_option autoImplicit false

/-! The table of the shipped application. All its routes are texts, and no two stand at one path, so
what becomes of a path and a method does not depend on the order of the modules. -/

namespace SavingsSite.Service

open Routing

/-! ### The table -/

/-- The kind, path, methods and endpoint of each route, in order. -/
def shippedPlan : List (RouteKind × String × List String × Endpoint) := [
  (.plain, "/openapi.json", ["GET", "HEAD"], .documentation "/openapi.json"),
  (.plain, "/docs", ["GET", "HEAD"], .documentation "/docs"),
  (.plain, "/docs/oauth2-redirect", ["GET", "HEAD"], .documentation "/docs/oauth2-redirect"),
  (.plain, "/redoc", ["GET", "HEAD"], .documentation "/redoc"),
  (.interface, "/api/v1/health", ["GET"], .health),
  (.interface, "/api/v1/health/ready", ["GET"], .readiness),
  (.interface, "/api/v1/health/live", ["GET"], .liveness),
  (.interface, "/api/v1/blockchain/status", ["GET"], .chainStatus),
  (.interface, "/api/v1/faq", ["GET"], .faqList),
  (.interface, accordionPath, ["GET"], .accordion),
  (.interface, togglePath, ["POST"], .toggle),
  (.interface, "/api/v1/content/hero", ["GET"], .hero),
  (.interface, "/", ["GET"], .root)]

def planned (plan : RouteKind × String × List String × Endpoint) : Route Endpoint :=
  ⟨plan.1, plan.2.1, plan.2.1.toList.map .char, plan.2.2.1, plan.2.2.2⟩

theorem shipped_table (docs : Documentation) (settings : Settings) :
    (shippedSite docs settings).table = shippedPlan.map fun plan => .route (planned plan) := by
  rfl

theorem shippedPlan_plain : ∀ plan ∈ shippedPlan, '\n' ∉ plan.2.1.toList := by
  decide +kernel

def Endpoint.isCustom : Endpoint → Bool
  | .custom _ => true
  | _ => false

theorem shippedPlan_own : ∀ plan ∈ shippedPlan, plan.2.2.2.isCustom = false := by
  decide

theorem plan_eq_of_isAt {a b : RouteKind × String × List String × Endpoint} {path : String}
    (aMember : a ∈ shippedPlan) (bMember : b ∈ shippedPlan) (aHere : IsAt a.2.1 path)
    (bHere : IsAt b.2.1 path) : a = b := by
  have distinct : (shippedPlan.map fun plan => plan.2.1).Nodup := by decide +kernel
  exact List.inj_on_of_nodup_map distinct aMember bMember
    (eq_of_isAt_of_isAt (shippedPlan_plain a aMember) (shippedPlan_plain b bMember) aHere bHere)

/-! ### The table in any order -/

section

variable (docs : Documentation) (settings : Settings) {modules : List (FeatureModule Endpoint)}
  (order : modules.Perm defaultModules)

include order

theorem create_reordered :
    (create docs settings modules).site = .ok (application docs settings modules) := by
  obtain ⟨accepted, _⟩ := (create_site_eq_ok_iff settings defaultModules _).mp
    (create_shipped docs settings)
  exact (create_site_eq_ok_iff settings modules _).mpr ⟨accepted.perm order, rfl⟩

theorem mem_reordered_iff (entry : Entry Endpoint) :
    entry ∈ (application docs settings modules).table ↔
      ∃ plan ∈ shippedPlan, .route (planned plan) = entry := by
  have reordered :
      (application docs settings modules).table.Perm (shippedSite docs settings).table :=
    ((order.flatMap_right _).append_left pages).append_right rootEntries
  rw [reordered.mem_iff, shipped_table, List.mem_map]

theorem route_mem_reordered {route : Route Endpoint}
    (listed : .route route ∈ (application docs settings modules).table) :
    ∃ plan ∈ shippedPlan, planned plan = route := by
  obtain ⟨plan, member, same⟩ := (mem_reordered_iff docs settings order _).mp listed
  exact ⟨plan, member, Entry.route.inj same⟩

theorem dispatch_reordered (method path : String) :
    Routing.Kept (application docs settings modules).table method path
      (dispatch (application docs settings modules).table method path) := by
  apply dispatch_literal
  intro entry listed
  obtain ⟨plan, _, rfl⟩ := (mem_reordered_iff docs settings order entry).mp listed
  exact rfl

theorem isCustom_of_served {method path : String} {route : Route Endpoint}
    {params : List (String × ParamValue)}
    (served : dispatch (application docs settings modules).table method path =
      .serve route params) : route.endpoint.isCustom = false := by
  have kept := dispatch_reordered docs settings order method path
  rw [served] at kept
  cases kept with
  | serve _ listed =>
      obtain ⟨plan, member, rfl⟩ := route_mem_reordered docs settings order listed
      exact shippedPlan_own plan member

theorem unlisted_reordered_iff (path : String) :
    Unlisted (application docs settings modules).table path ↔
      ∀ plan ∈ shippedPlan, ¬ IsAt plan.2.1 path := by
  constructor
  · intro nowhere plan member
    exact nowhere (planned plan) ((mem_reordered_iff docs settings order _).mpr ⟨plan, member, rfl⟩)
  · intro nowhere route listed
    obtain ⟨plan, member, rfl⟩ := route_mem_reordered docs settings order listed
    exact nowhere plan member

theorem dispatch_at {plan : RouteKind × String × List String × Endpoint}
    (member : plan ∈ shippedPlan) (method : String) {path : String} (here : IsAt plan.2.1 path) :
    dispatch (application docs settings modules).table method path =
      if (planned plan).serves method then .serve (planned plan) [] else .refuse (planned plan) := by
  have listed : .route (planned plan) ∈ (application docs settings modules).table :=
    (mem_reordered_iff docs settings order _).mpr ⟨plan, member, rfl⟩
  have own {route : Route Endpoint}
      (listed : .route route ∈ (application docs settings modules).table)
      (stands : IsAt route.path path) : route = planned plan := by
    obtain ⟨other, otherMember, rfl⟩ := route_mem_reordered docs settings order listed
    rw [plan_eq_of_isAt otherMember member stands here]
  have kept := dispatch_reordered docs settings order method path
  generalize dispatch (application docs settings modules).table method path = outcome at kept ⊢
  cases kept with
  | serve route listed stands serves =>
      cases own listed stands
      rw [if_pos serves]
  | refuse route listed stands refuses =>
      cases own listed stands
      rw [refuses]
      rfl
  | redirect _ nowhere => exact absurd here (nowhere _ listed)
  | missing nowhere => exact absurd here (nowhere _ listed)

/-- Without a route at the path the request is sent to the other path, if one stands there. -/
theorem dispatch_away (method : String) {path : String}
    (nowhere : ∀ plan ∈ shippedPlan, ¬ IsAt plan.2.1 path) :
    (∀ plan ∈ shippedPlan, IsAt plan.2.1 (otherPath path) →
      dispatch (application docs settings modules).table method path = .redirect (otherPath path)) ∧
    ((∀ plan ∈ shippedPlan, ¬ IsAt plan.2.1 (otherPath path)) →
      dispatch (application docs settings modules).table method path = .missing) := by
  have unlisted := (unlisted_reordered_iff docs settings order path).mpr nowhere
  have kept := dispatch_reordered docs settings order method path
  generalize dispatch (application docs settings modules).table method path = outcome at kept ⊢
  cases kept with
  | serve route listed here => exact absurd here (unlisted route listed)
  | refuse route listed here => exact absurd here (unlisted route listed)
  | redirect route _ listed there =>
      refine ⟨fun _ _ _ => rfl, fun nothing => ?_⟩
      exact absurd there ((unlisted_reordered_iff docs settings order _).mpr nothing route listed)
  | missing _ nothing =>
      refine ⟨fun plan member there => ?_, fun _ => rfl⟩
      rcases nothing with root | nothing
      · have rootPlan : (.interface, "/", ["GET"], .root) ∈ shippedPlan := by simp [shippedPlan]
        exact absurd (Or.inl (congrArg String.toList root)) (nowhere _ rootPlan)
      · exact absurd there ((unlisted_reordered_iff docs settings order _).mp nothing plan member)

end

end SavingsSite.Service
