import SavingsSite.Proofs.Composition.Atomicity
import SavingsSite.Proofs.Routing.Decision

set_option autoImplicit false

/-! Reserved paths. The template that is checked is the one that later decides on requests, so no
route of an accepted module serves a request for a reserved path. The modules let such a request
pass, unless the full paths of one of them are no templates: then it is lost there. -/

namespace SavingsSite

open Routing

variable {α : Type}

/-! ### Short paths -/

namespace Routing

theorem Template.length_taken_le {t : Template} {path : List Char} {captures : List Capture}
    (fitted : t.captures? path = some captures) :
    ∀ c ∈ captures, c.taken.length ≤ path.length := by
  induction t generalizing path captures with
  | nil =>
      rw [captures?] at fitted
      split at fitted
      · cases fitted
        exact List.forall_mem_nil _
      · cases fitted
  | cons part parts ih =>
      cases part with
      | char c =>
          cases path with
          | nil => cases fitted
          | cons d rest =>
              rw [captures?] at fitted
              split at fitted
              · intro capture member
                exact Nat.le_succ_of_le (ih fitted capture member)
              · cases fitted
      | parameter name kind =>
          obtain ⟨n, _, found⟩ := List.exists_of_findSome?_eq_some fitted
          obtain ⟨later, behind, rfl⟩ := Option.map_eq_some_iff.mp found
          refine List.forall_mem_cons.mpr ⟨List.length_take_le' _ _, fun capture member => ?_⟩
          exact Nat.le_trans (ih behind capture member) (List.drop_suffix n path).length_le

theorem ParamKind.exists_value (kind : ParamKind) {input : List Char}
    (short : input.length ≤ Json.digitLimit) : ∃ value, kind.value input = .ok value := by
  cases kind with
  | whole =>
      rw [ParamKind.value, if_neg (Nat.not_lt.mpr short)]
      exact ⟨_, rfl⟩
  | _ => exact ⟨_, rfl⟩

namespace Route

theorem exists_valuesOf {captures : List Template.Capture}
    (short : ∀ c ∈ captures, c.taken.length ≤ Json.digitLimit) :
    ∃ values, valuesOf captures = .ok values := by
  induction captures with
  | nil => exact ⟨[], rfl⟩
  | cons c rest ih =>
      rw [List.forall_mem_cons] at short
      obtain ⟨value, first⟩ := c.kind.exists_value short.1
      obtain ⟨values, later⟩ := ih short.2
      rw [valuesOf, first, later]
      exact ⟨_, rfl⟩

variable {route : Route α} {method path : String}

theorem params?_of_short (short : path.toList.length ≤ Json.digitLimit) :
    route.params? path = none ∨ ∃ params, route.params? path = some (.ok params) := by
  rw [params?]
  cases fitted : route.template.captures? path.toList with
  | none => exact Or.inl rfl
  | some captures =>
      obtain ⟨values, found⟩ := exists_valuesOf fun c member =>
        Nat.le_trans (Template.length_taken_le fitted c member) short
      rw [Option.map_some, found]
      exact Or.inr ⟨values, rfl⟩

theorem decision_eq_none (short : path.toList.length ≤ Json.digitLimit)
    (unserved : route.serves method = true → route.template.fits path.toList = false) :
    Entry.decision method path (.route route) = none := by
  rw [Entry.decision]
  rcases params?_of_short short with unfit | ⟨params, fitted⟩
  · rw [unfit]
  · rw [fitted]
    refine if_neg fun serves => ?_
    have fits := fits_of_params fitted
    rw [unserved serves] at fits
    cases fits

theorem WellMade.ofPath_full {base : String} {full : Route α} (wellMade : route.WellMade)
    (made : route.under base = .ok full) : Template.ofPath full.path = .ok full.template := by
  simp only [under, wellMade.kind] at made
  obtain ⟨template, found, _, rfl⟩ := (interface_eq_ok_iff _ _ _ _).mp made
  exact found

end Route

end Routing

/-! ### Requests for reserved paths -/

namespace Composition

variable {settings : Settings} {reserved : List (String × String)}
  {modules : List (FeatureModule α)} {method path : String}

theorem mem_keys_of_serves {m : FeatureModule α}
    (made : ∀ route ∈ m.routes settings, route.WellMade) {full : Route α}
    (listed : .route full ∈ m.entries settings) (serves : full.serves method = true) :
    (method, full.path) ∈ m.keys settings ∧ Template.ofPath full.path = .ok full.template := by
  obtain ⟨route, member, fullMade⟩ := Entry.route_mem_ofRouter listed
  have wellMade := made route member
  refine ⟨?_, wellMade.ofPath_full fullMade⟩
  exact (mem_routeKeys m.base (m.routes settings) method full.path).mpr
    ⟨route, member, decide_eq_true wellMade.kind, wellMade.mem_methods_of_serves fullMade serves,
      (Route.under_eq_ok fullMade).2.1⟩

theorem fits_reserved_eq_false (checked : Checked settings reserved modules)
    (made : ∀ m ∈ modules, ∀ route ∈ m.routes settings, route.WellMade)
    (held : (method, path) ∈ reserved) {m : FeatureModule α} (member : m ∈ modules)
    {full : Route α} (listed : .route full ∈ m.entries settings)
    (serves : full.serves method = true) : full.template.fits path.toList = false := by
  obtain ⟨key, template⟩ := mem_keys_of_serves (made m member) listed serves
  have clear := checked.unreserved m member _ key (method, path) held rfl
  obtain ⟨own, _, ownAt, _, unfit, _⟩ := (overlaps_eq_false_iff full.path path).mp clear
  rw [template] at ownAt
  cases ownAt
  exact unfit

/-- A request for a reserved path passes a module whose full paths are templates, and is lost in
any other. -/
theorem decision_entries_reserved (checked : Checked settings reserved modules)
    (made : ∀ m ∈ modules, ∀ route ∈ m.routes settings, route.WellMade)
    (held : (method, path) ∈ reserved) (short : path.toList.length ≤ Json.digitLimit)
    {m : FeatureModule α} (member : m ∈ modules) :
    (m.Readable settings ∧ decision method path (m.entries settings) = none) ∨
      (¬ m.Readable settings ∧
        ∃ fault, decision method path (m.entries settings) = some (.lost (.route fault))) := by
  by_cases readable : m.Readable settings
  · refine Or.inl ⟨readable, List.findSome?_eq_none_iff.mpr fun entry listed => ?_⟩
    obtain ⟨full, entriesAt, _⟩ := Entry.ofRouter_of_readable readable
    have inRouter := listed
    rw [FeatureModule.entries, entriesAt] at inRouter
    obtain ⟨route, _, rfl⟩ := List.mem_map.mp inRouter
    exact Route.decision_eq_none short
      (fits_reserved_eq_false checked made held member listed)
  · obtain ⟨fault, entriesAt⟩ := Entry.ofRouter_of_unreadable readable
    refine Or.inr ⟨readable, fault, ?_⟩
    rw [FeatureModule.entries, entriesAt]
    rfl

/-- A request for a reserved path passes all modules exactly when all their full paths are
templates, and is lost otherwise. -/
theorem decision_modules_reserved (checked : Checked settings reserved modules)
    (made : ∀ m ∈ modules, ∀ route ∈ m.routes settings, route.WellMade)
    (held : (method, path) ∈ reserved) (short : path.toList.length ≤ Json.digitLimit) :
    ((∀ m ∈ modules, m.Readable settings) ∧
        decision method path (modules.flatMap (FeatureModule.entries settings)) = none) ∨
      ((∃ m ∈ modules, ¬ m.Readable settings) ∧
        ∃ fault, decision method path (modules.flatMap (FeatureModule.entries settings)) =
          some (.lost (.route fault))) := by
  have each {m : FeatureModule α} (member : m ∈ modules) :=
    decision_entries_reserved checked made held short member
  rw [decision_flatMap]
  cases found : modules.findSome? fun m => decision method path (m.entries settings) with
  | none =>
      refine Or.inl ⟨fun m member => ?_, rfl⟩
      rcases each member with ⟨readable, _⟩ | ⟨_, fault, lost⟩
      · exact readable
      · have passed := List.findSome?_eq_none_iff.mp found m member
        rw [lost] at passed
        cases passed
  | some outcome =>
      obtain ⟨m, member, decided⟩ := List.exists_of_findSome?_eq_some found
      rcases each member with ⟨_, passed⟩ | ⟨unreadable, fault, lost⟩
      · rw [decided] at passed
        cases passed
      · rw [decided] at lost
        exact Or.inr ⟨⟨m, member, unreadable⟩, fault, lost⟩

end Composition

end SavingsSite
