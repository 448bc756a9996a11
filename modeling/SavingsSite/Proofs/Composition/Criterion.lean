import Mathlib.Data.List.Perm.Subperm
import SavingsSite.Proofs.Composition.Atomicity

set_option autoImplicit false

/-! The criterion of composition. Modules are refused as such only if two of them have one name, or a
key of one of them overlaps a reserved path or a key of another, whatever their order; and they are
refused then, provided that every path they are compared with is a template. -/

namespace SavingsSite

open Routing

variable {α : Type}

/-- A module has an interface route for a method at a full path. -/
def FeatureModule.Offers (settings : Settings) (m : FeatureModule α) (method path : String) : Prop :=
  ∃ route ∈ m.routes settings, route.isInterface = true ∧ method ∈ route.methods ∧
    path = m.base ++ route.path

theorem FeatureModule.mem_keys_iff (settings : Settings) (m : FeatureModule α)
    (method path : String) : (method, path) ∈ m.keys settings ↔ m.Offers settings method path :=
  Composition.mem_routeKeys m.base (m.routes settings) method path

def Routing.IsTemplate (path : String) : Prop := ∃ template, Template.ofPath path = .ok template

theorem Routing.exists_overlaps {first second : String} (firstIs : IsTemplate first)
    (secondIs : IsTemplate second) : ∃ answer, overlaps first second = .ok answer := by
  obtain ⟨a, firstAt⟩ := firstIs
  obtain ⟨b, secondAt⟩ := secondIs
  unfold overlaps
  rw [firstAt, secondAt]
  exact ⟨_, rfl⟩

theorem FeatureModule.Readable.isTemplate {settings : Settings} {m : FeatureModule α}
    (readable : m.Readable settings) {method path : String} (offers : m.Offers settings method path) :
    IsTemplate path := by
  obtain ⟨route, member, isInterface, _, rfl⟩ := offers
  obtain ⟨full, made⟩ := readable route member
  rw [Route.under, show route.kind = .interface from of_decide_eq_true isInterface] at made
  obtain ⟨template, found, _⟩ := (Route.interface_eq_ok_iff _ _ _ _).mp made
  exact ⟨template, found⟩

namespace Composition

/-! ### Two of the modules -/

theorem pairwise_iff_subperm {R : α → α → Prop} (symm : ∀ a b, R a b → R b a) (values : List α) :
    values.Pairwise R ↔ ∀ a b, [a, b].Subperm values → R a b := by
  constructor
  · rintro pairwise a b ⟨ordered, order, inside⟩
    have both := pairwise.sublist inside
    have sym : ∀ {x y : α}, R x y → R y x := fun {x y} => symm x y
    exact List.rel_of_pairwise_cons ((order.pairwise_iff sym).mp both) List.mem_cons_self
  · intro each
    rw [List.pairwise_iff_forall_sublist]
    intro a b inside
    exact each a b inside.subperm

/-- A path that a module offers is compared with a reserved path, or with one that another module
offers, for the same method. -/
inductive Compared (settings : Settings) (owned : List Owned) (modules : List (FeatureModule α)) :
    String → String → Prop
  | owned {m : FeatureModule α} {path : String} {other : Owned} (member : m ∈ modules)
      (offers : m.Offers settings other.method path) (held : other ∈ owned) :
      Compared settings owned modules path other.path
  | modules {a b : FeatureModule α} {method path other : String} (two : [a, b].Subperm modules)
      (offers : a.Offers settings method path) (others : b.Offers settings method other) :
      Compared settings owned modules path other

theorem Compared.cons {settings : Settings} {owned : List Owned} {m : FeatureModule α}
    {rest : List (FeatureModule α)} {path other : String}
    (compared : Compared settings (owned ++ ownedKeys settings m) rest path other) :
    Compared settings owned (m :: rest) path other := by
  cases compared with
  | @owned later _ owner member offers held =>
      rcases List.mem_append.mp held with before | own
      · exact .owned (List.mem_cons_of_mem m member) offers before
      · obtain ⟨⟨method, path⟩, listed, rfl⟩ := List.mem_map.mp own
        have two : [later, m].Subperm (m :: rest) :=
          ⟨[m, later], List.Perm.swap later m [], List.Sublist.cons_cons m
            (List.singleton_sublist.mpr member)⟩
        exact .modules two offers ((m.mem_keys_iff settings method path).mp listed)
  | modules two offers others =>
      exact .modules (two.trans (List.sublist_cons_self m rest).subperm) offers others

/-! ### How building fails -/

/-- What a search among held paths answers: nothing, or what a path of the same method ends it
with. -/
inductive Found (method path : String) (owned : List Owned) :
    Except TemplateFault (Option Owned) → Prop
  | clear : Found method path owned (.ok none)
  | undecided {other : Owned} {fault : TemplateFault} (held : other ∈ owned)
      (same : other.method = method) (failed : overlaps path other.path = .error fault) :
      Found method path owned (.error fault)
  | overlap {other : Owned} (held : other ∈ owned) (same : other.method = method)
      (overlap : overlaps path other.path = .ok true) : Found method path owned (.ok (some other))

theorem Found.cons {method path : String} {owned : List Owned}
    {answer : Except TemplateFault (Option Owned)} (found : Found method path owned answer)
    (first : Owned) : Found method path (first :: owned) answer := by
  cases found with
  | clear => exact .clear
  | undecided held same failed => exact .undecided (List.mem_cons_of_mem first held) same failed
  | overlap held same overlap => exact .overlap (List.mem_cons_of_mem first held) same overlap

theorem firstOverlap_found (method path : String) (owned : List Owned) :
    Found method path owned (firstOverlap method path owned) := by
  induction owned with
  | nil => exact .clear
  | cons first rest ih =>
      rw [firstOverlap]
      by_cases same : first.method = method
      · rw [if_pos same]
        cases compared : overlaps path first.path with
        | error fault => exact .undecided List.mem_cons_self same compared
        | ok answer =>
            cases answer with
            | true => exact .overlap List.mem_cons_self same compared
            | false => exact ih.cons first
      · rw [if_neg same]
        exact ih.cons first

/-- Two paths are not apart: it cannot be told whether they overlap, or they do. -/
inductive Obstacle (path other : String) : ComposeFault → Prop
  | undecided {fault : TemplateFault} (failed : overlaps path other = .error fault) :
      Obstacle path other (.route (.template fault))
  | overlap {fault : ComposeFault} (overlap : overlaps path other = .ok true)
      (clash : fault.siteFault?.isSome = true) : Obstacle path other fault

theorem checkKeys_of_error {names : List String} {module : String} {owned : List Owned}
    {keys : List (String × String)} {fault : ComposeFault}
    (failed : checkKeys names module owned keys = .error fault) :
    ∃ method path other, (method, path) ∈ keys ∧ other ∈ owned ∧ other.method = method ∧
      Obstacle path other.path fault := by
  induction keys with
  | nil => cases failed
  | cons key rest ih =>
      obtain ⟨method, path⟩ := key
      rw [checkKeys] at failed
      have found := firstOverlap_found method path owned
      generalize firstOverlap method path owned = answer at failed found
      cases found with
      | clear =>
          obtain ⟨method, path, other, listed, found⟩ := ih failed
          exact ⟨method, path, other, List.mem_cons_of_mem _ listed, found⟩
      | undecided held same undecided =>
          cases failed
          exact ⟨method, path, _, List.mem_cons_self, held, same, .undecided undecided⟩
      | overlap held same overlap =>
          cases failed
          exact ⟨method, path, _, List.mem_cons_self, held, same, .overlap overlap rfl⟩

/-- Building fails with a module that has no router, or at an obstacle between compared paths. -/
theorem buildAll_of_error {settings : Settings} {names : List String} {owned : List Owned}
    {modules : List (FeatureModule α)} {fault : ComposeFault}
    (failed : buildAll settings names owned modules = .error fault) :
    (∃ m ∈ modules, ∃ inner, m.build settings = .error inner ∧ fault = .route inner) ∨
      ∃ path other, Compared settings owned modules path other ∧ Obstacle path other fault := by
  induction modules generalizing owned with
  | nil => cases failed
  | cons m rest ih =>
      rw [buildAll] at failed
      cases found : m.build settings with
      | error inner =>
          rw [found] at failed
          cases failed
          exact Or.inl ⟨m, List.mem_cons_self, inner, found, rfl⟩
      | ok routes =>
          rw [found] at failed
          have keysAt : routeKeys m.base routes = m.keys settings := by
            rw [FeatureModule.keys, FeatureModule.routes_of_build found]
          simp only [keysAt] at failed
          cases checked : checkKeys names m.name owned (m.keys settings) with
          | error inner =>
              rw [checked] at failed
              cases failed
              obtain ⟨method, path, other, listed, held, rfl, obstacle⟩ := checkKeys_of_error checked
              exact Or.inr ⟨path, other.path, .owned List.mem_cons_self
                ((m.mem_keys_iff settings _ path).mp listed) held, obstacle⟩
          | ok _ =>
              rw [checked] at failed
              change (buildAll settings names (owned ++ ownedKeys settings m) rest).map _ = _
                at failed
              cases later : buildAll settings names (owned ++ ownedKeys settings m) rest with
              | ok built =>
                  rw [later] at failed
                  cases failed
              | error inner =>
                  rw [later] at failed
                  cases failed
                  rcases ih later with ⟨other, member, unbuilt⟩ | ⟨path, other, compared, obstacle⟩
                  · exact Or.inl ⟨other, List.mem_cons_of_mem m member, unbuilt⟩
                  · exact Or.inr ⟨path, other, compared.cons, obstacle⟩

/-! ### The criterion -/

/-- Two modules have one name, or a path of a module overlaps a reserved one or a path of another
module for the same method. -/
inductive Clash (settings : Settings) (reserved : List (String × String))
    (modules : List (FeatureModule α)) : Prop
  | names {a b : FeatureModule α} (two : [a, b].Subperm modules) (same : a.name = b.name)
  | reserved {m : FeatureModule α} {method path own : String} (member : m ∈ modules)
      (offers : m.Offers settings method path) (held : (method, own) ∈ reserved)
      (overlap : overlaps path own = .ok true)
  | routes {a b : FeatureModule α} {method path other : String} (two : [a, b].Subperm modules)
      (offers : a.Offers settings method path) (others : b.Offers settings method other)
      (overlap : overlaps path other = .ok true)

/-- Composition fails with a fault of its own, and not with that of a route. -/
def Refused (mounted : List (Entry α)) (modules : List (FeatureModule α)) (settings : Settings)
    (reserved : List (String × String)) : Prop :=
  ∃ fault, (compose mounted modules settings reserved).answer = .error fault ∧
    fault.siteFault?.isSome = true

def Accepts (mounted : List (Entry α)) (modules : List (FeatureModule α)) (settings : Settings)
    (reserved : List (String × String)) : Prop :=
  ∃ names, (compose mounted modules settings reserved).answer = .ok names

variable {settings : Settings} {reserved : List (String × String)}
  {modules : List (FeatureModule α)}

theorem nodup_names_iff (modules : List (FeatureModule α)) :
    (modules.map FeatureModule.name).Nodup ↔
      ∀ a b, [a, b].Subperm modules → a.name ≠ b.name := by
  rw [List.Nodup, List.pairwise_map, pairwise_iff_subperm fun a b differ => Ne.symm differ]

theorem Clash.not_checked (clash : Clash settings reserved modules) :
    ¬ Checked settings reserved modules := by
  intro checked
  cases clash with
  | names two same => exact (nodup_names_iff modules).mp checked.names _ _ two same
  | @reserved m method path own member offers held overlap =>
      have clear := checked.unreserved m member _ ((m.mem_keys_iff settings method path).mpr offers)
        (method, own) held rfl
      rw [overlap] at clear
      cases clear
  | @routes a b method path other two offers others overlap =>
      have apart := (pairwise_iff_subperm (fun _ _ => Apart.symm) modules).mp checked.apart b a
        ((List.Perm.swap a b []).subperm.trans two)
      have clear := apart _ ((a.mem_keys_iff settings method path).mpr offers)
        _ ((b.mem_keys_iff settings method other).mpr others) rfl
      rw [overlap] at clear
      cases clear

theorem Clash.of_compared {path other : String}
    (compared : Compared settings (reservedKeys reserved) modules path other)
    (overlap : overlaps path other = .ok true) : Clash settings reserved modules := by
  cases compared with
  | owned member offers held =>
      obtain ⟨⟨method, own⟩, listed, rfl⟩ := List.mem_map.mp held
      exact .reserved member offers listed overlap
  | modules two offers others => exact .routes two offers others overlap

theorem compose_of_error {mounted : List (Entry α)} {fault : ComposeFault}
    (failed : (compose mounted modules settings reserved).answer = .error fault) :
    (¬ (modules.map FeatureModule.name).Nodup ∧ fault.siteFault?.isSome = true) ∨
    buildAll settings (modules.map FeatureModule.name) (reservedKeys reserved) modules =
      .error fault ∨
    ∃ m ∈ modules, ∃ inner, m.baseFault? settings = some inner ∧ fault = .route inner := by
  have unique := repeatedNames_isEmpty_iff (modules.map FeatureModule.name)
  cases empty : (repeatedNames (modules.map FeatureModule.name)).isEmpty with
  | false =>
      rw [empty] at unique
      simp only [compose, empty, Bool.not_false, if_true] at failed
      cases failed
      exact Or.inl ⟨fun nodup => Bool.false_ne_true (unique.mpr nodup), rfl⟩
  | true =>
      cases built : buildAll settings (modules.map FeatureModule.name) (reservedKeys reserved)
          modules with
      | error inner =>
          have own : buildAll settings (modules.map FeatureModule.name)
              (reserved.map fun pair => ⟨pair.1, pair.2, "app"⟩) modules = .error inner := built
          simp only [compose, empty, Bool.not_true, Bool.false_eq_true, if_false, own] at failed
          cases failed
          exact Or.inr (Or.inl rfl)
      | ok routers =>
          have checked : Checked settings reserved modules :=
            (checked_iff settings reserved modules).mpr
              ⟨unique.mp empty, ((buildAll_eq_ok_iff _ _ _ _ _).mp built).1⟩
          rcases sound_or_faulty settings modules with
            sound | ⟨early, m, late, inner, rfl, sound, faulty⟩
          · rw [compose_of_accepted mounted modules settings reserved ⟨checked, sound⟩] at failed
            cases failed
          · rw [compose_of_faulty mounted settings reserved early m late inner checked sound
              faulty] at failed
            cases failed
            exact Or.inr (Or.inr ⟨m, List.mem_append_right early List.mem_cons_self, inner, faulty,
              rfl⟩)

theorem Refused.clash {mounted : List (Entry α)}
    (refused : Refused mounted modules settings reserved) : Clash settings reserved modules := by
  obtain ⟨fault, failed, reported⟩ := refused
  rcases compose_of_error failed with ⟨repeated, _⟩ | unbuilt | ⟨_, _, inner, _, rfl⟩
  · by_contra free
    refine repeated ((nodup_names_iff modules).mpr ?_)
    intro a b two same
    exact free (.names two same)
  · rcases buildAll_of_error unbuilt with ⟨_, _, inner, _, rfl⟩ | ⟨path, other, compared, obstacle⟩
    · cases reported
    · cases obstacle with
      | undecided _ => cases reported
      | overlap overlap _ => exact .of_compared compared overlap
  · cases reported

/-- Modules with routers that can be included: their bases are sound, and all their full paths are
templates. -/
structure Composable (settings : Settings) (modules : List (FeatureModule α)) : Prop where
  built : ∀ m ∈ modules, ∃ routes, m.build settings = .ok routes
  sound : ∀ m ∈ modules, m.baseFault? settings = none
  readable : ∀ m ∈ modules, m.Readable settings

/-- The reserved paths of the methods that modules serve are templates. -/
def Reservable (settings : Settings) (reserved : List (String × String))
    (modules : List (FeatureModule α)) : Prop :=
  ∀ m ∈ modules, ∀ method path own, m.Offers settings method path → (method, own) ∈ reserved →
    IsTemplate own

theorem Compared.decided {path other : String}
    (compared : Compared settings (reservedKeys reserved) modules path other)
    (composable : Composable settings modules) (reservable : Reservable settings reserved modules) :
    ∃ answer, overlaps path other = .ok answer := by
  cases compared with
  | @owned m _ owner member offers held =>
      obtain ⟨⟨method, own⟩, listed, rfl⟩ := List.mem_map.mp held
      exact exists_overlaps ((composable.readable m member).isTemplate offers)
        (reservable m member method path own offers listed)
  | @modules a b _ _ _ two offers others =>
      have first := two.subset List.mem_cons_self
      have second := two.subset (List.mem_cons_of_mem a List.mem_cons_self)
      exact exists_overlaps ((composable.readable a first).isTemplate offers)
        ((composable.readable b second).isTemplate others)

theorem Clash.not_accepts {mounted : List (Entry α)} (clash : Clash settings reserved modules) :
    ¬ Accepts mounted modules settings reserved := by
  intro accepts
  have accepted := (compose_answer_eq_ok_iff mounted modules settings reserved).mp accepts
  exact clash.not_checked accepted.checked

/-- A composition that fails is refused, or one of the compared reserved paths is no template and its
fault ends the comparison. -/
theorem refused_or_undecided {mounted : List (Entry α)} (composable : Composable settings modules)
    (unaccepted : ¬ Accepts mounted modules settings reserved) :
    Refused mounted modules settings reserved ∨
      ¬ Reservable settings reserved modules ∧
        ∃ fault, (compose mounted modules settings reserved).answer =
          .error (.route (.template fault)) := by
  cases failed : (compose mounted modules settings reserved).answer with
  | ok names => exact absurd ⟨names, failed⟩ unaccepted
  | error fault =>
      rcases compose_of_error failed with ⟨_, reported⟩ | unbuilt | ⟨m, member, inner, faulty, _⟩
      · exact Or.inl ⟨fault, failed, reported⟩
      · rcases buildAll_of_error unbuilt with
          ⟨m, member, inner, failing, _⟩ | ⟨path, other, compared, obstacle⟩
        · obtain ⟨routes, built⟩ := composable.built m member
          rw [failing] at built
          cases built
        · cases obstacle with
          | overlap _ reported => exact Or.inl ⟨fault, failed, reported⟩
          | @undecided inner undecided =>
              refine Or.inr ⟨fun reservable => ?_, inner, rfl⟩
              obtain ⟨answer, decided⟩ := compared.decided composable reservable
              rw [undecided] at decided
              cases decided
      · rw [composable.sound m member] at faulty
        cases faulty

theorem accepts_perm_iff (mounted : List (Entry α)) {reordered : List (FeatureModule α)}
    (order : reordered.Perm modules) :
    Accepts mounted reordered settings reserved ↔ Accepts mounted modules settings reserved := by
  unfold Accepts
  rw [compose_answer_eq_ok_iff, compose_answer_eq_ok_iff]
  exact ⟨fun accepted => accepted.perm order.symm, fun accepted => accepted.perm order⟩

theorem listing_of_accepts {mounted : List (Entry α)} (composable : Composable settings modules)
    (accepts : Accepts mounted modules settings reserved) :
    listing (compose mounted modules settings reserved).table =
      (listing mounted).map (· ++ modules.flatMap (FeatureModule.listed settings)) := by
  have accepted := (compose_answer_eq_ok_iff mounted modules settings reserved).mp accepts
  rw [compose_of_accepted mounted modules settings reserved accepted]
  exact listing_append_of_readable settings mounted modules composable.readable

theorem Composable.perm {reordered : List (FeatureModule α)}
    (composable : Composable settings modules) (order : reordered.Perm modules) :
    Composable settings reordered where
  built := fun m member => composable.built m (order.mem_iff.mp member)
  sound := fun m member => composable.sound m (order.mem_iff.mp member)
  readable := fun m member => composable.readable m (order.mem_iff.mp member)

/-- What two lists of modules add behind a table differs in its order only. -/
def SameMounts (mounted : List (Entry α)) (settings : Settings) (reserved : List (String × String))
    (modules reordered : List (FeatureModule α)) : Prop :=
  ∃ added readded,
    listing (compose mounted modules settings reserved).table = (listing mounted).map (· ++ added) ∧
    listing (compose mounted reordered settings reserved).table =
      (listing mounted).map (· ++ readded) ∧
    readded.Perm added

def localSettings : Settings := { rpcUrl := "http://localhost:8000" }

def itemsAndSpecial : List (FeatureModule String) :=
  [oneRouteModule "items" "/p" "/\x7bid\x7d", oneRouteModule "special" "/p" "/special"]

theorem oneRouteModule_readable {name base path : String} {route below : Route String}
    (made : Route.interface path ["GET"] name = .ok route) (under : route.under base = .ok below)
    (settings : Settings) : (oneRouteModule name base path).Readable settings := by
  have routesAt : (oneRouteModule name base path).routes settings = [route] := by
    rw [FeatureModule.routes, oneRouteModule, made]
    rfl
  intro other member
  rw [routesAt] at member
  cases List.mem_singleton.mp member
  exact ⟨below, under⟩

theorem itemsAndSpecial_composable : Composable localSettings itemsAndSpecial where
  built := List.forall_mem_cons.mpr ⟨⟨_, rfl⟩, List.forall_mem_singleton.mpr ⟨_, rfl⟩⟩
  sound := List.forall_mem_cons.mpr ⟨rfl, List.forall_mem_singleton.mpr rfl⟩
  readable := List.forall_mem_cons.mpr ⟨oneRouteModule_readable rfl rfl localSettings,
    List.forall_mem_singleton.mpr (oneRouteModule_readable rfl rfl localSettings)⟩

/-- Composition refuses nothing but a clash, whatever the order, and it refuses each clash unless
one of the compared reserved paths is no template and its fault comes first. -/
theorem refused_iff_clash (mounted : List (Entry α)) (modules : List (FeatureModule α))
    (settings : Settings) (reserved : List (String × String))
    (composable : Composable settings modules) :
    (Refused mounted modules settings reserved → Clash settings reserved modules) ∧
    (Clash settings reserved modules → Refused mounted modules settings reserved ∨
      ¬ Reservable settings reserved modules ∧
        ∃ fault, (compose mounted modules settings reserved).answer =
          .error (.route (.template fault))) ∧
    (Reservable settings reserved modules →
      (Refused mounted modules settings reserved ↔ Clash settings reserved modules) ∧
      (Accepts mounted modules settings reserved ↔ ¬ Clash settings reserved modules)) ∧
    ∀ reordered, reordered.Perm modules →
      (Accepts mounted reordered settings reserved ↔ Accepts mounted modules settings reserved) ∧
      (Accepts mounted modules settings reserved →
        SameMounts mounted settings reserved modules reordered) := by
  refine ⟨Refused.clash, fun clash => refused_or_undecided composable clash.not_accepts, ?_, ?_⟩
  · intro reservable
    have refused (unaccepted : ¬ Accepts mounted modules settings reserved) :
        Refused mounted modules settings reserved :=
      (refused_or_undecided composable unaccepted).resolve_right
        fun undecided => undecided.1 reservable
    refine ⟨⟨Refused.clash, fun clash => refused clash.not_accepts⟩, ?_⟩
    refine ⟨fun accepts clash => clash.not_accepts accepts, fun free => ?_⟩
    by_contra unaccepted
    exact free (refused unaccepted).clash
  · intro reordered order
    have same : Accepts mounted reordered settings reserved ↔
        Accepts mounted modules settings reserved := accepts_perm_iff mounted order
    refine ⟨same, fun accepts => ?_⟩
    exact ⟨_, _, listing_of_accepts composable accepts,
      listing_of_accepts (composable.perm order) (same.mpr accepts),
      order.flatMap_right (FeatureModule.listed settings)⟩

/-- A parameter of one module fits the path of another, in either order. -/
theorem special_under_items_refused :
    Composable localSettings itemsAndSpecial ∧
      Refused [] itemsAndSpecial localSettings [("GET", "/")] ∧
      ¬ Accepts [] itemsAndSpecial.reverse localSettings [("GET", "/")] := by
  obtain ⟨_, _, complete, order⟩ := refused_iff_clash [] itemsAndSpecial localSettings
    [("GET", "/")] itemsAndSpecial_composable
  have reservable : Reservable localSettings [("GET", "/")] itemsAndSpecial := by
    intro _ _ _ _ own _ held
    cases List.mem_singleton.mp held
    exact ⟨_, rfl⟩
  have clash : Clash localSettings [("GET", "/")] itemsAndSpecial := by
    have parameter : (oneRouteModule "items" "/p" "/\x7bid\x7d").Offers localSettings "GET"
        "/p/\x7bid\x7d" := ⟨_, List.mem_singleton.mpr rfl, rfl, List.mem_singleton.mpr rfl, rfl⟩
    have literal : (oneRouteModule "special" "/p" "/special").Offers localSettings "GET"
        "/p/special" := ⟨_, List.mem_singleton.mpr rfl, rfl, List.mem_singleton.mpr rfl, rfl⟩
    exact .routes (List.Sublist.refl itemsAndSpecial).subperm parameter literal rfl
  refine ⟨itemsAndSpecial_composable, (complete reservable).1.mpr clash, fun accepts => ?_⟩
  have inOrder := (order _ (List.reverse_perm itemsAndSpecial)).1.mp accepts
  exact (complete reservable).2.mp inOrder clash

def alone : List (FeatureModule String) := [oneRouteModule "m" "/p" "/x"]

def brokenAndOwn : List (String × String) := [("GET", "/\x7ba\x7d/\x7ba\x7d"), ("GET", "/p/x")]

/-- A reserved path that is no template ends the comparison before the clash is found. -/
theorem undecided_hides_clash :
    Composable localSettings alone ∧ Clash localSettings brokenAndOwn alone ∧
      ¬ Refused [] alone localSettings brokenAndOwn := by
  refine ⟨⟨?_, ?_, ?_⟩, ?_, ?_⟩
  · exact List.forall_mem_singleton.mpr ⟨_, rfl⟩
  · exact List.forall_mem_singleton.mpr rfl
  · exact List.forall_mem_singleton.mpr (oneRouteModule_readable rfl rfl localSettings)
  · have own : (oneRouteModule "m" "/p" "/x").Offers localSettings "GET" "/p/x" :=
      ⟨_, List.mem_singleton.mpr rfl, rfl, List.mem_singleton.mpr rfl, rfl⟩
    exact .reserved List.mem_cons_self own (List.mem_cons_of_mem _ List.mem_cons_self) rfl
  · rintro ⟨fault, failed, reported⟩
    have undecided : (compose [] alone localSettings brokenAndOwn).answer =
        .error (.route (.template (.duplicateNames ["a"] "/\x7ba\x7d/\x7ba\x7d"))) := rfl
    rw [undecided] at failed
    cases failed
    cases reported

end Composition

end SavingsSite
