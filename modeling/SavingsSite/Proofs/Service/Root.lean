import SavingsSite.Proofs.Service.Answers
import SavingsSite.Proofs.Service.Order

set_option autoImplicit false

/-! The root of the site. It is the last entry of the table, and its path is reserved: no module
serves a request for it. Such a request is lost on its way when the full paths of a module are no
templates, and else it is answered by the root. -/

namespace SavingsSite.Service

open Routing
open Http (Request)

def rootContent : Json :=
  Json.ofFields [
    ("name", Json.ofString "Nestera API"),
    ("version", Json.ofString "0.1.0"),
    ("docs", Json.ofString "/docs"),
    ("health", Json.ofString "/api/v1/health")]

/-- A request for the root, with any query, headers and body. -/
structure AsksRoot (request : Request) : Prop where
  method : request.method = "GET"
  path : request.path = "/"

structure AnsweredByRoot (site : Site) (request : Request) (reply : Site.Reply) : Prop where
  served : ∃ route, rootRoute? = some route ∧
    dispatch site.table request.method request.path = .serve route []
  status : reply.response.status = 200
  content : reply.response.content = .json rootContent
  log : reply.log = []
  crash : reply.crash = none

section

variable {docs : Documentation} {settings : Settings} {modules : List (FeatureModule Endpoint)}

theorem dispatch_root (accepted : Composition.Accepted settings rootRoutes modules)
    (made : ∀ m ∈ modules, IsInterface settings m) :
    ((∀ m ∈ modules, m.Readable settings) ∧ ∃ route, rootRoute? = some route ∧
        dispatch (application docs settings modules).table "GET" "/" = .serve route []) ∨
      ((∃ m ∈ modules, ¬ m.Readable settings) ∧ ∃ fault,
        dispatch (application docs settings modules).table "GET" "/" = .lost (.route fault)) := by
  have silent : decision "GET" "/" pages = none := rfl
  have table : decision "GET" "/" (application docs settings modules).table =
      (decision "GET" "/" (modules.flatMap (FeatureModule.entries settings))).or
        (decision "GET" "/" rootEntries) := by
    rw [application, decision_append, decision_append, silent, Option.none_or]
  have decided {found : Dispatch Endpoint}
      (first : decision "GET" "/" (application docs settings modules).table = some found) :
      dispatch (application docs settings modules).table "GET" "/" = found := by
    rw [dispatch, search_of_decision first none]
  rcases Composition.decision_modules_reserved accepted.checked made
      (List.mem_singleton_self ("GET", "/")) (by decide) with
    ⟨readable, passed⟩ | ⟨unreadable, fault, lost⟩
  · rw [passed, Option.none_or] at table
    exact Or.inl ⟨readable, _, rfl, decided table⟩
  · rw [lost, Option.some_or] at table
    exact Or.inr ⟨unreadable, fault, decided table⟩

variable {request : Request}

theorem AsksRoot.passes (asks : AsksRoot request) : Passes request := by
  refine Or.inr (isPreflight_of_method ?_)
  rw [asks.method]
  decide

theorem answeredByRoot_of_served {site : Site} (asks : AsksRoot request)
    {route : Route Endpoint} (isRoot : rootRoute? = some route)
    (served : dispatch site.table "GET" "/" = .serve route []) (now : String) :
    AnsweredByRoot site request (site.respond now request) := by
  have routed : site.route now request =
      (.ok { status := 200, content := .json rootContent }, []) := by
    cases isRoot
    simp only [Site.route, asks.method, asks.path, served]
    rfl
  have granted := granted_status_content site request
    { status := 200, content := .json rootContent }
  rw [Site.respond_of_passes asks.passes, routed]
  exact ⟨⟨route, isRoot, by rw [asks.method, asks.path, served]⟩, granted.1, granted.2, rfl, rfl⟩

theorem crash_of_lost {site : Site} (asks : AsksRoot request) {fault : DispatchFault}
    (lost : dispatch site.table "GET" "/" = .lost fault) (now : String) :
    (site.respond now request).response = Site.crashResponse ∧
      (site.respond now request).crash = some (.lost fault) := by
  have routed : site.route now request = (.error (.lost fault), []) := by
    simp only [Site.route, asks.method, asks.path, lost]
  rw [Site.respond_of_passes asks.passes, routed]
  exact ⟨rfl, rfl⟩

end

/-- No route of modules that are accepted serves a request for a reserved path. In an application,
the root answers every request for it when the full paths of all modules are templates, and such
requests are all lost when those of some module are not. -/
theorem reserved_unshadowed (docs : Documentation) (settings : Settings)
    (modules : List (FeatureModule Endpoint)) (made : ∀ m ∈ modules, IsInterface settings m) :
    (∀ mounted reserved names,
      (Composition.compose mounted modules settings reserved).answer = .ok names →
      ∃ added, (Composition.compose mounted modules settings reserved).table = mounted ++ added ∧
        ∀ method path, (method, path) ∈ reserved → ∀ route, .route route ∈ added →
          route.serves method = true → route.template.fits path.toList = false) ∧
    ∀ site, (create docs settings modules).site = .ok site → ∀ now request, AsksRoot request →
      ((∀ m ∈ modules, m.Readable settings) →
        AnsweredByRoot site request (site.respond now request)) ∧
      ((∃ m ∈ modules, ¬ m.Readable settings) →
        (site.respond now request).response = Site.crashResponse ∧
        ∃ fault, (site.respond now request).crash = some (.lost (.route fault))) := by
  constructor
  · intro mounted reserved names answer
    have accepted := (Composition.compose_answer_eq_ok_iff mounted modules settings reserved).mp
      ⟨names, answer⟩
    rw [Composition.compose_of_accepted mounted modules settings reserved accepted]
    refine ⟨_, rfl, fun method path held route listed serves => ?_⟩
    obtain ⟨m, member, own⟩ := List.mem_flatMap.mp listed
    exact Composition.fits_reserved_eq_false accepted.checked made held member own serves
  · intro site created now request asks
    obtain ⟨accepted, rfl⟩ := (create_site_eq_ok_iff settings modules site).mp created
    rcases dispatch_root accepted made with
      ⟨readable, route, isRoot, served⟩ | ⟨⟨m, member, unreadable⟩, fault, lost⟩
    · exact ⟨fun _ => answeredByRoot_of_served asks isRoot served now,
        fun ⟨m, member, unreadable⟩ => absurd (readable m member) unreadable⟩
    · obtain ⟨response, crash⟩ := crash_of_lost asks lost now
      exact ⟨fun readable => absurd (readable m member) unreadable,
        fun _ => ⟨response, fault, crash⟩⟩

/-! ### Two modules -/

def rootRequest : Request where
  method := "GET"
  path := "/"
  query := "open_index=1"
  headers := [("origin", "https://a.example")]
  body := [0]

theorem rootRequest_asks : AsksRoot rootRequest := ⟨rfl, rfl⟩

/-- Its first route fits every path, for another method. -/
def wideModule : FeatureModule Endpoint where
  name := "wide"
  base := ""
  build := fun _ => interfaceRoutes [
    ("POST", "/\x7brest:path\x7d", .echo "rest"),
    ("GET", "/\x7bname\x7d", .echo "name")]

theorem wideModule_isInterface : ∀ m ∈ [wideModule], IsInterface someSettings m := by
  intro m member route routeMember
  cases List.mem_singleton.mp member
  rcases List.mem_pair.mp routeMember with rfl | rfl <;> rfl

def twiceModule : FeatureModule Endpoint where
  name := "twice"
  base := "/\x7bid\x7d"
  build := fun _ => interfaceRoutes [("POST", "/\x7bid\x7d", .echo "twice")]

theorem twiceModule_isInterface : ∀ m ∈ [twiceModule], IsInterface someSettings m := by
  intro m member route routeMember
  cases List.mem_singleton.mp member
  cases List.mem_singleton.mp routeMember
  rfl

theorem reserved_unshadowed_wide :
    (∃ added,
      (Composition.compose [] [wideModule] someSettings [("GET", "/a/b")]).table = [] ++ added ∧
        ∀ route, .route route ∈ added → route.serves "GET" = true →
          route.template.fits "/a/b".toList = false) ∧
      (∃ site, (create .blank someSettings [wideModule]).site = .ok site ∧
        AnsweredByRoot site rootRequest (site.respond "" rootRequest)) ∧
      ∃ site, (create .blank someSettings [twiceModule]).site = .ok site ∧
        (site.respond "" rootRequest).response = Site.crashResponse := by
  obtain ⟨unserved, answers⟩ :=
    reserved_unshadowed .blank someSettings [wideModule] wideModule_isInterface
  obtain ⟨_, loses⟩ := reserved_unshadowed .blank someSettings [twiceModule] twiceModule_isInterface
  have readable : ∀ m ∈ [wideModule], m.Readable someSettings := by
    intro m member route routeMember
    cases List.mem_singleton.mp member
    rcases List.mem_pair.mp routeMember with rfl | rfl <;> exact ⟨_, rfl⟩
  have unreadable : ¬ twiceModule.Readable someSettings := by
    intro readable
    obtain ⟨full, made⟩ := readable _ (List.mem_singleton.mpr rfl)
    cases made
  refine ⟨?_, ⟨_, rfl, (answers _ rfl "" rootRequest rootRequest_asks).1 readable⟩, _, rfl, ?_⟩
  · obtain ⟨added, table, unfit⟩ := unserved [] [("GET", "/a/b")] _ rfl
    exact ⟨added, table, unfit "GET" "/a/b" (List.mem_singleton_self _)⟩
  · exact ((loses _ rfl "" rootRequest rootRequest_asks).2
      ⟨twiceModule, List.mem_singleton_self _, unreadable⟩).1

/-- The module is accepted, since no other path is compared with its own, and the root is lost. -/
theorem root_lost_behind_twice :
    ∃ site, (∀ m ∈ [twiceModule], IsInterface someSettings m) ∧
      (create .blank someSettings [twiceModule]).site = .ok site ∧
      (site.respond "" rootRequest).response.status = 500 :=
  ⟨_, twiceModule_isInterface, rfl, rfl⟩

end SavingsSite.Service
