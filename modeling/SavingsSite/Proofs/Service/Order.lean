import SavingsSite.Proofs.Composition.Reserved
import SavingsSite.Proofs.Service.Application

set_option autoImplicit false

/-! The order of modules. Requests are served the same in every order exactly when no two modules
decide one request differently. The check of overlaps compares templates with the texts of
templates, so two routes that fit one path may pass it; then the module that comes first is
served. -/

namespace SavingsSite.Service

open Routing

def Settled (settings : Settings) (modules : List (FeatureModule Endpoint))
    (method path : String) : Prop :=
  ∀ a ∈ modules, ∀ b ∈ modules, ∀ mine theirs,
    decisionOf settings method path a = some mine →
    decisionOf settings method path b = some theirs → mine.served = theirs.served

/-- Two modules have a route each that fits a path and serves a method, but the check of overlaps
takes their templates for disjoint. -/
def Unseen (settings : Settings) (a b : FeatureModule Endpoint) (method path : String) : Prop :=
  ∃ mine theirs : Route Endpoint,
    .route mine ∈ a.entries settings ∧ .route theirs ∈ b.entries settings ∧
    mine.serves method = true ∧ theirs.serves method = true ∧
    mine.template.fits path.toList = true ∧ theirs.template.fits path.toList = true ∧
    overlaps mine.path theirs.path = .ok false

/-- The routes of a module are interface routes as their parts make them. -/
def IsInterface (settings : Settings) (m : FeatureModule Endpoint) : Prop :=
  ∀ route ∈ m.routes settings, route.WellMade

section

variable {docs : Documentation} {settings : Settings} {modules : List (FeatureModule Endpoint)}

theorem exists_reordered_first {m : FeatureModule Endpoint} (member : m ∈ modules) :
    ∃ others, (m :: others).Perm modules := by
  obtain ⟨early, late, rfl⟩ := List.append_of_mem member
  exact ⟨early ++ late, List.perm_middle.symm⟩

theorem findSome?_served {method path : String} (settled : Settled settings modules method path)
    {reordered : List (FeatureModule Endpoint)} (order : reordered.Perm modules) :
    (reordered.findSome? (decisionOf settings method path)).map Dispatch.served =
      (modules.findSome? (decisionOf settings method path)).map Dispatch.served := by
  cases before : modules.findSome? (decisionOf settings method path) with
  | none =>
      have silent : reordered.findSome? (decisionOf settings method path) = none := by
        rw [List.findSome?_eq_none_iff] at before ⊢
        intro m member
        exact before m (order.mem_iff.mp member)
      rw [silent]
  | some mine =>
      obtain ⟨a, aMember, decided⟩ := List.exists_of_findSome?_eq_some before
      cases after : reordered.findSome? (decisionOf settings method path) with
      | none =>
          rw [List.findSome?_eq_none_iff] at after
          have silent := after a (order.mem_iff.mpr aMember)
          rw [decided] at silent
          cases silent
      | some theirs =>
          obtain ⟨b, bMember, alsoDecided⟩ := List.exists_of_findSome?_eq_some after
          have same := settled b (order.mem_iff.mp bMember) a aMember theirs mine alsoDecided
            decided
          simp only [Option.map_some, same]

theorem served_of_settled {method path : String}
    (settled : decision method path pages = none → Settled settings modules method path)
    {reordered : List (FeatureModule Endpoint)} (order : reordered.Perm modules) :
    (dispatch (application docs settings reordered).table method path).served =
      (dispatch (application docs settings modules).table method path).served := by
  rw [served_dispatch, served_dispatch, application_decision, application_decision]
  cases page : decision method path pages with
  | some found => rfl
  | none =>
      have same := findSome?_served (settled page) order
      simp only [Option.none_or]
      cases before : modules.findSome? (decisionOf settings method path) with
      | none =>
          rw [before, Option.map_none, Option.map_eq_none_iff] at same
          rw [same]
      | some mine =>
          rw [before, Option.map_some, Option.map_eq_some_iff] at same
          obtain ⟨theirs, after, served⟩ := same
          rw [after, Option.some_or, Option.some_or, Option.bind_some, Option.bind_some, served]

theorem served_of_first {method path : String} (page : decision method path pages = none)
    {m : FeatureModule Endpoint} {found : Dispatch Endpoint}
    (decided : decisionOf settings method path m = some found)
    (others : List (FeatureModule Endpoint)) :
    (dispatch (application docs settings (m :: others)).table method path).served = found.served := by
  rw [served_dispatch, application_decision, page, List.findSome?_cons, decided]
  rfl

/-- Modules that serve one request differently are different, and have routes whose overlap is not
seen unless one of them loses the request. -/
theorem unseen_of_unequal {method path : String} {a b : FeatureModule Endpoint}
    (accepted : Composition.Accepted settings rootRoutes modules)
    (made : ∀ m ∈ modules, IsInterface settings m) (aMember : a ∈ modules) (bMember : b ∈ modules)
    (different : b ≠ a) {mine theirs : Dispatch Endpoint}
    (decided : decisionOf settings method path a = some mine)
    (alsoDecided : decisionOf settings method path b = some theirs) :
    (∃ fault, mine = .lost fault ∨ theirs = .lost fault) ∨ Unseen settings a b method path := by
  obtain ⟨entry, entryMember, byEntry⟩ := List.exists_of_findSome?_eq_some decided
  obtain ⟨other, otherMember, byOther⟩ := List.exists_of_findSome?_eq_some alsoDecided
  rcases decision_of_entry byEntry with ⟨fault, lost⟩ | ⟨route, params, rfl, rfl, fits, serves⟩
  · exact Or.inl ⟨fault, Or.inl lost⟩
  rcases decision_of_entry byOther with
    ⟨fault, lost⟩ | ⟨route', params', rfl, rfl, fits', serves'⟩
  · exact Or.inl ⟨fault, Or.inr lost⟩
  refine Or.inr ⟨route, route', entryMember, otherMember, serves, serves', fits, fits', ?_⟩
  have own := (Composition.mem_keys_of_serves (made a aMember) entryMember serves).1
  have own' := (Composition.mem_keys_of_serves (made b bMember) otherMember serves').1
  obtain ⟨others, order⟩ := exists_reordered_first aMember
  have apart := List.pairwise_cons.mp (accepted.checked.perm order).apart
  have later : b ∈ others :=
    (List.mem_cons.mp (order.mem_iff.mpr bMember)).resolve_left different
  have clear := apart.1 b later (method, route'.path) own' (method, route.path) own
  exact Composition.overlaps_false_symm (clear rfl)

end

/-- Requests are served the same in every order exactly when all requests past the pages of
documentation are settled. Between modules with interface routes alone, a request that is not
settled is lost by a module that decides it, or fits two routes whose overlap is not seen. -/
theorem order_independent_iff (docs : Documentation) (settings : Settings)
    (modules : List (FeatureModule Endpoint)) (site : Site)
    (created : (create docs settings modules).site = .ok site) :
    ((∀ (reordered : List (FeatureModule Endpoint)) (other : Site), reordered.Perm modules →
        (create docs settings reordered).site = .ok other → ∀ method path,
          (dispatch other.table method path).served = (dispatch site.table method path).served) ↔
      ∀ method path, decision method path pages = none →
        Settled settings modules method path) ∧
    ((∀ m ∈ modules, IsInterface settings m) → ∀ method path,
      ¬ Settled settings modules method path → ∃ a ∈ modules, ∃ b ∈ modules, a ≠ b ∧
        ((∃ fault, decisionOf settings method path a = some (.lost fault)) ∨
          Unseen settings a b method path)) := by
  obtain ⟨accepted, rfl⟩ := (create_site_eq_ok_iff settings modules site).mp created
  refine ⟨⟨?_, ?_⟩, ?_⟩
  · intro same method path page a aMember b bMember mine theirs decided alsoDecided
    have servedFirst {m : FeatureModule Endpoint} {found : Dispatch Endpoint}
        (member : m ∈ modules) (foundBy : decisionOf settings method path m = some found) :
        found.served = (dispatch (application docs settings modules).table method path).served := by
      obtain ⟨others, order⟩ := exists_reordered_first member
      rw [← served_of_first page foundBy others]
      exact same (m :: others) _ order
        ((create_site_eq_ok_iff _ _ _).mpr ⟨accepted.perm order, rfl⟩) method path
    rw [servedFirst aMember decided, servedFirst bMember alsoDecided]
  · intro settled reordered other order otherCreated method path
    obtain ⟨_, rfl⟩ := (create_site_eq_ok_iff settings reordered other).mp otherCreated
    exact served_of_settled (settled method path) order
  · intro made method path unsettled
    simp only [Settled, not_forall] at unsettled
    obtain ⟨a, aMember, b, bMember, mine, theirs, decided, alsoDecided, unequal⟩ := unsettled
    have different : b ≠ a := by
      intro same
      subst same
      rw [decided] at alsoDecided
      cases alsoDecided
      exact unequal rfl
    rcases unseen_of_unequal accepted made aMember bMember different decided alsoDecided with
      ⟨fault, rfl | rfl⟩ | unseen
    · exact ⟨a, aMember, b, bMember, different.symm, Or.inl ⟨fault, decided⟩⟩
    · exact ⟨b, bMember, a, aMember, different, Or.inl ⟨fault, alsoDecided⟩⟩
    · exact ⟨a, aMember, b, bMember, different.symm, Or.inr unseen⟩

/-! ### Two templates that cross -/

def someSettings : Settings := { rpcUrl := "http://localhost:8000" }

def rowModule : FeatureModule Endpoint :=
  fixedModule "second" "Second" [("GET", "/y/{b}", .echo "second")]

def columnModule : FeatureModule Endpoint :=
  fixedModule "first" "First" [("GET", "/{a}/x", .echo "first")]

theorem crossing_isInterface :
    ∀ m ∈ [rowModule, columnModule], IsInterface someSettings m := by
  intro m member route routeMember
  rcases List.mem_pair.mp member with rfl | rfl
  · cases List.mem_singleton.mp routeMember
    rfl
  · cases List.mem_singleton.mp routeMember
    rfl

def crossingRequest : Http.Request where
  method := "GET"
  path := "/api/v1/y/x"
  query := ""
  headers := []
  body := []

/-- The name of the handler in the answer to a request. -/
def namedHandler (endpoint : Endpoint) : Option Json :=
  match (endpoint.handle (fun _ _ => .answer .empty) ⟨someSettings, ""⟩ .plain crossingRequest
    []).outcome with
  | .response ⟨_, _, .json value⟩ => value.field? "handler"
  | _ => none

theorem echo_ne : Endpoint.echo "second" ≠ Endpoint.echo "first" := by
  intro same
  have texts : some (Json.ofString "second") = some (Json.ofString "first") :=
    congrArg namedHandler same
  exact absurd (JsonString.sound.inj (Json.text.inj (Option.some.inj texts))) (by decide)

/-- Both orders are accepted, and the module that comes first is served. -/
theorem order_matters_crossing :
    ∃ site other : Site,
      (∀ m ∈ [rowModule, columnModule], IsInterface someSettings m) ∧
      [columnModule, rowModule].Perm [rowModule, columnModule] ∧
      (create .blank someSettings [rowModule, columnModule]).site = .ok site ∧
      (create .blank someSettings [columnModule, rowModule]).site = .ok other ∧
      (dispatch site.table "GET" "/api/v1/y/x").served =
        some (.echo "second", [("b", .text ['x'])]) ∧
      (dispatch other.table "GET" "/api/v1/y/x").served =
        some (.echo "first", [("a", .text ['y'])]) ∧
      Endpoint.echo "second" ≠ .echo "first" :=
  ⟨_, _, crossing_isInterface, .swap rowModule columnModule [], rfl, rfl, rfl, rfl, echo_ne⟩

theorem crossing_unsettled :
    ¬ Settled someSettings [rowModule, columnModule] "GET" "/api/v1/y/x" := by
  intro settled
  have same := settled rowModule List.mem_cons_self columnModule
    (List.mem_cons_of_mem rowModule List.mem_cons_self) _ _ rfl rfl
  exact echo_ne (congrArg Prod.fst (Option.some.inj same))

theorem order_independent_iff_crossing :
    ∃ site, (create .blank someSettings [rowModule, columnModule]).site = .ok site ∧
      ∃ a ∈ [rowModule, columnModule], ∃ b ∈ [rowModule, columnModule], a ≠ b ∧
        ((∃ fault, decisionOf someSettings "GET" "/api/v1/y/x" a = some (.lost fault)) ∨
          Unseen someSettings a b "GET" "/api/v1/y/x") :=
  ⟨_, rfl, (order_independent_iff .blank someSettings [rowModule, columnModule] _ rfl).2
    crossing_isInterface "GET" "/api/v1/y/x" crossing_unsettled⟩

end SavingsSite.Service
