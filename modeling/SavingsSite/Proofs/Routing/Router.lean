import Mathlib.Data.List.Forall2
import SavingsSite.Routing.Table

set_option autoImplicit false

/-! Routers in the table of an application: either every route stands there below its base, or one
broken entry stands for all of them. -/

namespace SavingsSite.Routing

variable {α : Type}

namespace Route

/-- A route of the interface as its own parts make it. -/
def WellMade (route : Route α) : Prop :=
  interface route.path route.methods route.endpoint = .ok route

theorem interface_eq_ok_iff (path : String) (methods : List String) (endpoint : α)
    (route : Route α) :
    interface path methods endpoint = .ok route ↔
      ∃ template, Template.ofPath path = .ok template ∧ methods ≠ [] ∧
        route = ⟨.interface, path, template, methodSet methods, endpoint⟩ := by
  unfold interface
  cases Template.ofPath path with
  | error fault => simp only [reduceCtorEq, false_and, exists_false]
  | ok template =>
      cases methods with
      | nil => simp only [List.isEmpty_nil, if_true, reduceCtorEq, ne_eq, not_true_eq_false,
          false_and, and_false, exists_false]
      | cons method rest =>
          simp only [List.isEmpty_cons, Bool.false_eq_true, if_false, Except.ok.injEq, ne_eq,
            reduceCtorEq, not_false_eq_true, true_and, exists_eq_left']
          exact eq_comm

theorem under_eq_ok {base : String} {route full : Route α} (made : route.under base = .ok full) :
    full.kind = route.kind ∧ full.path = base ++ route.path ∧ full.endpoint = route.endpoint := by
  unfold under at made
  cases kind : route.kind with
  | interface =>
      simp only [kind] at made
      obtain ⟨template, _, _, rfl⟩ := (interface_eq_ok_iff _ _ _ _).mp made
      exact ⟨rfl, rfl, rfl⟩
  | plain =>
      simp only [kind, plain] at made
      split at made
      · cases made
      · split at made
        · cases made
        · cases made
          exact ⟨rfl, rfl, rfl⟩

theorem under_methods {base : String} {route full : Route α} (made : route.under base = .ok full)
    (kind : route.kind = .interface) :
    full.methods = methodSet route.methods ∧ route.methods ≠ [] := by
  simp only [under, kind] at made
  obtain ⟨template, _, nonempty, rfl⟩ := (interface_eq_ok_iff _ _ _ _).mp made
  exact ⟨rfl, nonempty⟩

theorem WellMade.kind {route : Route α} (made : route.WellMade) : route.kind = .interface := by
  obtain ⟨template, _, _, same⟩ := (interface_eq_ok_iff _ _ _ _).mp made
  rw [same]

theorem WellMade.methods {route : Route α} (made : route.WellMade) :
    methodSet route.methods = route.methods := by
  obtain ⟨template, _, _, same⟩ := (interface_eq_ok_iff _ _ _ _).mp made
  exact (congrArg Route.methods same).symm

theorem WellMade.mem_methods_of_serves {base method : String} {route full : Route α}
    (wellMade : route.WellMade) (made : route.under base = .ok full)
    (serves : full.serves method = true) : method ∈ route.methods := by
  obtain ⟨methodsAt, nonempty⟩ := under_methods made wellMade.kind
  rw [wellMade.methods] at methodsAt
  rw [Route.serves, methodsAt, Bool.or_eq_true, List.isEmpty_iff, List.contains_iff_mem] at serves
  exact serves.resolve_left nonempty

theorem fits_of_params {route : Route α} {path : String}
    {answer : Except DigitFault (List (String × ParamValue))}
    (found : route.params? path = some answer) : route.template.fits path.toList = true := by
  rw [params?, Option.map_eq_some_iff] at found
  obtain ⟨captures, fitted, _⟩ := found
  rw [Template.fits, fitted, Option.isSome_some]

end Route

/-- The routes `full` stand for `routes` below a base, in their order. -/
abbrev Below (base : String) (routes full : List (Route α)) : Prop :=
  List.Forall₂ (fun route below => route.under base = .ok below) routes full

theorem Below.exists_full {base : String} {routes full : List (Route α)}
    (pairs : Below base routes full) {route : Route α} (member : route ∈ routes) :
    ∃ below, route.under base = .ok below := by
  induction pairs with
  | nil => cases member
  | @cons first below rest more made _ ih =>
      rcases List.mem_cons.mp member with same | later
      · exact ⟨below, same ▸ made⟩
      · exact ih later

theorem Below.exists_route {base : String} {routes full : List (Route α)}
    (pairs : Below base routes full) {below : Route α} (member : below ∈ full) :
    ∃ route ∈ routes, route.under base = .ok below := by
  induction pairs with
  | nil => cases member
  | @cons first below rest more made _ ih =>
      rcases List.mem_cons.mp member with same | later
      · exact ⟨first, List.mem_cons_self, same ▸ made⟩
      · obtain ⟨route, routeMember, found⟩ := ih later
        exact ⟨route, List.mem_cons_of_mem first routeMember, found⟩

theorem mapM_under_eq_ok_iff (base : String) (routes full : List (Route α)) :
    routes.mapM (Route.under base) = .ok full ↔ Below base routes full := by
  induction routes generalizing full with
  | nil =>
      rw [List.mapM_nil, Below, List.forall₂_nil_left_iff]
      change (Except.ok [] = Except.ok full) ↔ _
      rw [Except.ok.injEq, eq_comm]
  | cons route rest ih =>
      rw [List.mapM_cons]
      cases first : route.under base with
      | error fault =>
          constructor
          · intro impossible
            cases impossible
          · intro pairs
            cases pairs with
            | cons made _ =>
                rw [first] at made
                cases made
      | ok below =>
          cases later : rest.mapM (Route.under base) with
          | error fault =>
              constructor
              · intro impossible
                cases impossible
              · intro pairs
                cases pairs with
                | cons _ more =>
                    have impossible := (ih _).mpr more
                    rw [later] at impossible
                    cases impossible
          | ok more =>
              constructor
              · intro made
                cases made
                exact .cons first ((ih more).mp later)
              · intro pairs
                cases pairs with
                | cons made others =>
                    rw [first] at made
                    cases made
                    have same := (ih _).mpr others
                    rw [later] at same
                    cases same
                    rfl

namespace Entry

def Readable (base : String) (routes : List (Route α)) : Prop :=
  ∀ route ∈ routes, ∃ full, route.under base = .ok full

theorem ofRouter_of_readable {base : String} {routes : List (Route α)}
    (readable : Readable base routes) :
    ∃ full, ofRouter base routes = full.map .route ∧ Below base routes full := by
  have found : ∃ full, Below base routes full := by
    induction routes with
    | nil => exact ⟨[], .nil⟩
    | cons route rest ih =>
        obtain ⟨first, made⟩ := readable route List.mem_cons_self
        obtain ⟨full, pairs⟩ := ih fun other member =>
          readable other (List.mem_cons_of_mem route member)
        exact ⟨first :: full, .cons made pairs⟩
  obtain ⟨full, pairs⟩ := found
  refine ⟨full, ?_, pairs⟩
  rw [ofRouter, (mapM_under_eq_ok_iff base routes full).mpr pairs]

theorem ofRouter_of_unreadable {base : String} {routes : List (Route α)}
    (unreadable : ¬ Readable base routes) : ∃ fault, ofRouter base routes = [.broken fault] := by
  unfold ofRouter
  cases made : routes.mapM (Route.under base) with
  | error fault => exact ⟨fault, rfl⟩
  | ok full =>
      refine absurd ?_ unreadable
      intro route member
      exact ((mapM_under_eq_ok_iff base routes full).mp made).exists_full member

theorem route_mem_ofRouter {base : String} {routes : List (Route α)} {full : Route α}
    (member : .route full ∈ ofRouter base routes) :
    ∃ route ∈ routes, route.under base = .ok full := by
  by_cases readable : Readable base routes
  · obtain ⟨all, entriesAt, pairs⟩ := ofRouter_of_readable readable
    rw [entriesAt] at member
    obtain ⟨found, foundMember, same⟩ := List.mem_map.mp member
    cases same
    exact pairs.exists_route foundMember
  · obtain ⟨fault, entriesAt⟩ := ofRouter_of_unreadable readable
    rw [entriesAt, List.mem_singleton] at member
    cases member

end Entry

end SavingsSite.Routing
