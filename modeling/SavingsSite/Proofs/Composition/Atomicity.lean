import SavingsSite.Proofs.Composition.Acceptance
import SavingsSite.Proofs.Routing.Router

set_option autoImplicit false

/-! All or nothing. Every check of composition comes before the first mount, but the bases of
routers are not checked before: a faulty base leaves the routers before it mounted. A router whose
full paths are no templates is mounted without a fault, and its routes cannot be listed. -/

namespace SavingsSite

open Routing

variable {α : Type}

namespace Routing

abbrev Listed (α : Type) := String × List String × α

def listed (routes : List (Route α)) : List (Listed α) :=
  (routes.filter Route.isInterface).map fun route => (route.path, route.methods, route.endpoint)

/-- The interface routes of a table, or the fault for which they cannot be listed. -/
def listing (table : List (Entry α)) : Except RouteFault (List (Listed α)) :=
  (Entry.routes table).map listed

theorem listed_append (first rest : List (Route α)) :
    listed (first ++ rest) = listed first ++ listed rest := by
  rw [listed, List.filter_append, List.map_append]
  rfl

theorem Entry.routes_route_append (full : List (Route α)) (rest : List (Entry α)) :
    Entry.routes (full.map .route ++ rest) = (Entry.routes rest).map (full ++ ·) := by
  induction full with
  | nil =>
      rw [List.map_nil, List.nil_append]
      cases Entry.routes rest <;> rfl
  | cons first more ih =>
      rw [List.map_cons, List.cons_append, Entry.routes, ih]
      cases Entry.routes rest <;> rfl

theorem Entry.routes_append_of_ok {table : List (Entry α)} {routes : List (Route α)}
    (readable : Entry.routes table = .ok routes) (rest : List (Entry α)) :
    Entry.routes (table ++ rest) = (Entry.routes rest).map (routes ++ ·) := by
  induction table generalizing routes with
  | nil =>
      cases readable
      rw [List.nil_append]
      cases Entry.routes rest <;> rfl
  | cons entry more ih =>
      cases entry with
      | broken fault => cases readable
      | route first =>
          rw [Entry.routes] at readable
          cases later : Entry.routes more with
          | error fault =>
              rw [later] at readable
              cases readable
          | ok found =>
              rw [later] at readable
              cases readable
              rw [List.cons_append, Entry.routes, ih later]
              cases Entry.routes rest <;> rfl

theorem Entry.routes_append_of_error {table : List (Entry α)} {fault : RouteFault}
    (broken : Entry.routes table = .error fault) (rest : List (Entry α)) :
    Entry.routes (table ++ rest) = .error fault := by
  induction table with
  | nil => cases broken
  | cons entry more ih =>
      cases entry with
      | broken first =>
          cases broken
          rfl
      | route first =>
          rw [Entry.routes] at broken
          cases later : Entry.routes more with
          | ok found =>
              rw [later] at broken
              cases broken
          | error same =>
              rw [later] at broken
              cases broken
              rw [List.cons_append, Entry.routes, ih later]
              rfl

theorem Entry.ofRouter_eq_nil_iff (base : String) (routes : List (Route α)) :
    Entry.ofRouter base routes = [] ↔ routes = [] := by
  by_cases readable : Entry.Readable base routes
  · obtain ⟨full, entriesAt, pairs⟩ := Entry.ofRouter_of_readable readable
    rw [entriesAt, List.map_eq_nil_iff]
    constructor
    · rintro rfl
      exact List.forall₂_nil_right_iff.mp pairs
    · rintro rfl
      exact List.forall₂_nil_left_iff.mp pairs
  · obtain ⟨fault, entriesAt⟩ := Entry.ofRouter_of_unreadable readable
    rw [entriesAt]
    constructor
    · intro impossible
      cases impossible
    · rintro rfl
      refine absurd ?_ readable
      intro route impossible
      cases impossible

def listedBelow (base : String) (routes : List (Route α)) : List (Listed α) :=
  (routes.filter Route.isInterface).map fun route =>
    (base ++ route.path, methodSet route.methods, route.endpoint)

theorem Below.listed_eq {base : String} {routes full : List (Route α)}
    (pairs : Below base routes full) : listed full = listedBelow base routes := by
  induction pairs with
  | nil => rfl
  | @cons route below rest more made _ ih =>
      obtain ⟨sameKind, path, endpoint⟩ := Route.under_eq_ok made
      rw [listed] at ih
      rw [listedBelow] at ih
      rw [listed, listedBelow]
      cases kind : route.kind with
      | interface =>
          have isInterface : route.isInterface = true := decide_eq_true kind
          have belowToo : below.isInterface = true := decide_eq_true (sameKind.trans kind)
          rw [List.filter_cons_of_pos belowToo, List.filter_cons_of_pos isInterface,
            List.map_cons, List.map_cons, ih, path, endpoint, (Route.under_methods made kind).1]
      | plain =>
          have isPlain : ¬ route.isInterface = true := by
            simp only [Route.isInterface, kind, reduceCtorEq, decide_false, Bool.false_eq_true,
              not_false_eq_true]
          have belowToo : ¬ below.isInterface = true := by
            simp only [Route.isInterface, sameKind, kind, reduceCtorEq, decide_false,
              Bool.false_eq_true, not_false_eq_true]
          rw [List.filter_cons_of_neg belowToo, List.filter_cons_of_neg isPlain, ih]

end Routing

namespace FeatureModule

def listed (settings : Settings) (m : FeatureModule α) : List (Listed α) :=
  listedBelow m.base (m.routes settings)

def Readable (settings : Settings) (m : FeatureModule α) : Prop :=
  Entry.Readable m.base (m.routes settings)

theorem entries_eq_nil_iff (settings : Settings) (m : FeatureModule α) :
    m.entries settings = [] ↔ m.routes settings = [] :=
  Entry.ofRouter_eq_nil_iff m.base (m.routes settings)

end FeatureModule

namespace Composition

theorem listing_append_of_readable (settings : Settings) (mounted : List (Entry α))
    (modules : List (FeatureModule α)) (readable : ∀ m ∈ modules, m.Readable settings) :
    listing (mounted ++ modules.flatMap (FeatureModule.entries settings)) =
      (listing mounted).map (· ++ modules.flatMap (FeatureModule.listed settings)) := by
  have added : ∃ full, Entry.routes (modules.flatMap (FeatureModule.entries settings)) = .ok full ∧
      listed full = modules.flatMap (FeatureModule.listed settings) := by
    induction modules with
    | nil => exact ⟨[], rfl, rfl⟩
    | cons m rest ih =>
        obtain ⟨own, entriesAt, pairs⟩ :=
          Entry.ofRouter_of_readable (readable m List.mem_cons_self)
        obtain ⟨more, moreAt, listedAt⟩ :=
          ih fun other member => readable other (List.mem_cons_of_mem m member)
        refine ⟨own ++ more, ?_, ?_⟩
        · rw [List.flatMap_cons, FeatureModule.entries, entriesAt, Entry.routes_route_append,
            moreAt]
          rfl
        · rw [listed_append, listedAt, pairs.listed_eq, List.flatMap_cons]
          rfl
  obtain ⟨full, addedAt, listedAt⟩ := added
  unfold listing
  cases before : Entry.routes mounted with
  | error fault =>
      rw [Entry.routes_append_of_error before]
      rfl
  | ok routes =>
      rw [Entry.routes_append_of_ok before, addedAt]
      simp only [Except.map, listed_append, listedAt]

theorem listing_append_of_unreadable (settings : Settings) {mounted : List (Entry α)}
    {routes : List (Route α)} (listable : Entry.routes mounted = .ok routes)
    {modules : List (FeatureModule α)} (unreadable : ¬ ∀ m ∈ modules, m.Readable settings) :
    ∃ fault, listing (mounted ++ modules.flatMap (FeatureModule.entries settings)) =
      .error fault := by
  have broken : ∃ fault,
      Entry.routes (modules.flatMap (FeatureModule.entries settings)) = .error fault := by
    induction modules with
    | nil =>
        refine absurd ?_ unreadable
        intro m impossible
        cases impossible
    | cons m rest ih =>
        rw [List.flatMap_cons, FeatureModule.entries]
        by_cases own : m.Readable settings
        · obtain ⟨fault, later⟩ := ih fun others =>
            unreadable (List.forall_mem_cons.mpr ⟨own, others⟩)
          obtain ⟨full, entriesAt, _⟩ := Entry.ofRouter_of_readable own
          refine ⟨fault, ?_⟩
          rw [entriesAt, Entry.routes_route_append, later]
          rfl
        · obtain ⟨fault, entriesAt⟩ := Entry.ofRouter_of_unreadable own
          rw [entriesAt]
          exact ⟨fault, rfl⟩
  obtain ⟨fault, addedAt⟩ := broken
  refine ⟨fault, ?_⟩
  rw [listing, Entry.routes_append_of_ok listable, addedAt]
  rfl

/-- Composition answers with the names of the modules, records each mount and adds the routes of
the modules in order, or it fails and leaves the table as it was. -/
def AllOrNothing (mounted : List (Entry α)) (modules : List (FeatureModule α))
    (settings : Settings) (reserved : List (String × String)) : Prop :=
  let result := compose mounted modules settings reserved
  (result.answer = .ok (modules.map FeatureModule.name) ∧
    result.log = modules.map mountRecord ∧
    listing result.table =
      (listing mounted).map (· ++ modules.flatMap (FeatureModule.listed settings))) ∨
  ((∃ fault, result.answer = .error fault) ∧ result.table = mounted)

/-- After the checks nothing else may go wrong: no routes come before a faulty base, and the full
paths of all modules are templates when all are mounted. -/
structure Mountable (mounted : List (Entry α)) (modules : List (FeatureModule α))
    (settings : Settings) : Prop where
  nothingEarly : ∀ early m late fault, modules = early ++ m :: late →
    (∀ e ∈ early, e.baseFault? settings = none) → m.baseFault? settings = some fault →
    ∀ e ∈ early, e.routes settings = []
  readable : (∀ m ∈ modules, m.baseFault? settings = none) →
    (∃ routes, Entry.routes mounted = .ok routes) → ∀ m ∈ modules, m.Readable settings

theorem allOrNothing_of_mountable {mounted : List (Entry α)} {modules : List (FeatureModule α)}
    {settings : Settings} {reserved : List (String × String)}
    (checked : Checked settings reserved modules)
    (mountable : Mountable mounted modules settings) :
    AllOrNothing mounted modules settings reserved := by
  unfold AllOrNothing
  rcases sound_or_faulty settings modules with sound | ⟨early, m, late, fault, rfl, sound, faulty⟩
  · rw [compose_of_accepted mounted modules settings reserved ⟨checked, sound⟩]
    refine Or.inl ⟨rfl, rfl, ?_⟩
    cases before : Entry.routes mounted with
    | error fault =>
        rw [listing, listing, Entry.routes_append_of_error before, before]
        rfl
    | ok routes =>
        exact listing_append_of_readable settings mounted modules
          (mountable.readable sound ⟨routes, before⟩)
  · rw [compose_of_faulty mounted settings reserved early m late fault checked sound faulty]
    refine Or.inr ⟨⟨_, rfl⟩, ?_⟩
    have empty := mountable.nothingEarly early m late fault rfl sound faulty
    have nothing : early.flatMap (FeatureModule.entries settings) = [] := by
      rw [List.flatMap_eq_nil_iff]
      intro e member
      exact (e.entries_eq_nil_iff settings).mpr (empty e member)
    rw [nothing, List.append_nil]

theorem mountable_of_allOrNothing {mounted : List (Entry α)} {modules : List (FeatureModule α)}
    {settings : Settings} {reserved : List (String × String)}
    (checked : Checked settings reserved modules)
    (whole : AllOrNothing mounted modules settings reserved) :
    Mountable mounted modules settings := by
  unfold AllOrNothing at whole
  constructor
  · rintro early m late fault rfl sound faulty e member
    rw [compose_of_faulty mounted settings reserved early m late fault checked sound
      faulty] at whole
    rcases whole with ⟨impossible, _⟩ | ⟨_, unchanged⟩
    · cases impossible
    · have nothing := List.append_right_eq_self.mp unchanged
      rw [List.flatMap_eq_nil_iff] at nothing
      exact (e.entries_eq_nil_iff settings).mp (nothing e member)
  · rintro sound ⟨routes, listable⟩
    rw [compose_of_accepted mounted modules settings reserved ⟨checked, sound⟩] at whole
    rcases whole with ⟨_, _, listedAt⟩ | ⟨⟨_, impossible⟩, _⟩
    · by_contra unreadable
      obtain ⟨fault, broken⟩ := listing_append_of_unreadable settings listable unreadable
      rw [broken, listing, listable] at listedAt
      cases listedAt
    · cases impossible

/-- Composition is all or nothing exactly when nothing goes wrong after its checks. -/
theorem allOrNothing_iff (mounted : List (Entry α)) (modules : List (FeatureModule α))
    (settings : Settings) (reserved : List (String × String)) :
    AllOrNothing mounted modules settings reserved ↔
      (Checked settings reserved modules → Mountable mounted modules settings) := by
  constructor
  · intro whole checked
    exact mountable_of_allOrNothing checked whole
  · intro mountable
    by_cases checked : Checked settings reserved modules
    · exact allOrNothing_of_mountable checked (mountable checked)
    · obtain ⟨fault, refused⟩ := compose_of_unchecked mounted modules settings reserved checked
      unfold AllOrNothing
      rw [refused]
      exact Or.inr ⟨⟨fault, rfl⟩, rfl⟩

/-! ### A base that is found faulty too late -/

def oneRouteModule (name base path : String) : FeatureModule String :=
  { name, base, build := fun _ => (Route.interface path ["GET"] name).map fun route => [route] }

/-- The second base is faulty, and the route of the first module stays. -/
theorem first_mount_stays :
    ¬ AllOrNothing [] [oneRouteModule "sound" "/p" "/x", oneRouteModule "rootless" "q" "/y"]
      { rpcUrl := "http://localhost:8000" } [("GET", "/")] := by
  rintro (⟨answer, _⟩ | ⟨_, table⟩)
  · cases answer
  · cases table

end Composition

end SavingsSite
