import SavingsSite.Proofs.Composition.Acceptance
import SavingsSite.Proofs.Routing.Decision
import SavingsSite.Service.Site

set_option autoImplicit false

/-! The applications that exist, and their tables: the pages of documentation, what the modules add
in their order, and the root. -/

namespace SavingsSite.Service

open Routing

def pages : List (Entry Endpoint) := documentationRoutes.map Entry.route

def rootEntries : List (Entry Endpoint) := rootRoute?.toList.map Entry.route

def application (documentation : Documentation) (settings : Settings)
    (modules : List (FeatureModule Endpoint)) : Site where
  documentation
  settings
  modules := modules.map FeatureModule.name
  table := pages ++ modules.flatMap (FeatureModule.entries settings) ++ rootEntries

theorem create_site_eq_ok_iff {docs : Documentation} (settings : Settings)
    (modules : List (FeatureModule Endpoint)) (site : Site) :
    (create docs settings modules).site = .ok site ↔
      Composition.Accepted settings rootRoutes modules ∧
        site = application docs settings modules := by
  have composed := Composition.compose_answer_eq_ok_iff pages modules settings rootRoutes
  constructor
  · intro created
    simp only [create] at created
    rw [← composed]
    cases answer : (Composition.compose pages modules settings rootRoutes).answer with
    | error fault =>
        simp only [pages] at answer
        rw [answer] at created
        cases created
    | ok names =>
        refine ⟨⟨names, rfl⟩, ?_⟩
        have accepted := composed.mp ⟨names, answer⟩
        have work := Composition.compose_of_accepted pages modules settings rootRoutes accepted
        simp only [pages] at work
        rw [work] at created
        exact (Except.ok.inj created).symm
  · rintro ⟨accepted, rfl⟩
    have work := Composition.compose_of_accepted pages modules settings rootRoutes accepted
    simp only [pages] at work
    simp only [create, work]
    rfl

def decisionOf (settings : Settings) (method path : String) (m : FeatureModule Endpoint) :
    Option (Dispatch Endpoint) :=
  decision method path (m.entries settings)

theorem application_decision {docs : Documentation} (settings : Settings)
    (modules : List (FeatureModule Endpoint)) (method path : String) :
    decision method path (application docs settings modules).table =
      ((decision method path pages).or (modules.findSome? (decisionOf settings method path))).or
        (decision method path rootEntries) := by
  simp only [application, decision_append, decision_flatMap]
  rfl

end SavingsSite.Service
