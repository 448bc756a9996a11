import SavingsSite.Composition.Compose
import SavingsSite.Proofs.Text.Sorted

set_option autoImplicit false

/-! The checks of composition before anything is mounted. They succeed exactly when every module has
a router and no key of a module collides with a key that it does not own. -/

namespace SavingsSite

open Routing

variable {α : Type}

namespace FeatureModule

def routes (settings : Settings) (m : FeatureModule α) : List (Route α) :=
  (m.build settings).toOption.getD []

def keys (settings : Settings) (m : FeatureModule α) : List (String × String) :=
  Composition.routeKeys m.base (m.routes settings)

theorem routes_of_build {settings : Settings} {m : FeatureModule α} {found : List (Route α)}
    (built : m.build settings = .ok found) : m.routes settings = found := by
  simp only [routes, built, Except.toOption, Option.getD_some]

end FeatureModule

namespace Composition

theorem keyBelow_separates : Text.Separates keyBelow := by
  intro a b notBelow notAbove
  obtain ⟨method, path⟩ := a
  obtain ⟨otherMethod, otherPath⟩ := b
  simp only [keyBelow, Bool.or_eq_false_iff, Bool.and_eq_false_iff,
    decide_eq_false_iff_not] at notBelow notAbove
  have sameMethod : method = otherMethod :=
    String.le_antisymm (String.not_lt.mp notAbove.1) (String.not_lt.mp notBelow.1)
  subst sameMethod
  have notBelowPath := notBelow.2.resolve_left (fun different => different rfl)
  have notAbovePath := notAbove.2.resolve_left (fun different => different rfl)
  rw [String.le_antisymm (String.not_lt.mp notAbovePath) (String.not_lt.mp notBelowPath)]

theorem mem_routeKeys (base : String) (routes : List (Route α)) (method path : String) :
    (method, path) ∈ routeKeys base routes ↔
      ∃ route ∈ routes, route.isInterface = true ∧ method ∈ route.methods ∧
        path = base ++ route.path := by
  rw [routeKeys, Text.mem_sortedSet keyBelow_separates, List.mem_flatMap]
  constructor
  · rintro ⟨route, member, keyOf⟩
    obtain ⟨inRouter, isInterface⟩ := List.mem_filter.mp member
    obtain ⟨served, inMethods, same⟩ := List.mem_map.mp keyOf
    cases same
    exact ⟨route, inRouter, isInterface, inMethods, rfl⟩
  · rintro ⟨route, inRouter, isInterface, inMethods, rfl⟩
    exact ⟨route, List.mem_filter.mpr ⟨inRouter, isInterface⟩,
      List.mem_map.mpr ⟨method, inMethods, rfl⟩⟩

theorem repeatedNames_isEmpty_iff (names : List String) :
    (repeatedNames names).isEmpty = true ↔ names.Nodup := by
  rw [List.isEmpty_iff, repeatedNames, Text.sortedStrings, Text.sortedSet_eq_nil_iff,
    List.filter_eq_nil_iff, List.nodup_iff_count]
  constructor
  · intro unrepeated name
    by_cases member : name ∈ names
    · have bounded := unrepeated name member
      rw [decide_eq_true_eq, Nat.not_lt] at bounded
      exact bounded
    · rw [List.count_eq_zero_of_not_mem member]
      exact Nat.zero_le 1
  · intro bounded name _member
    rw [decide_eq_true_eq, Nat.not_lt]
    exact bounded name

/-! ### The test of overlaps -/

theorem overlaps_eq_false_iff (first second : String) :
    overlaps first second = .ok false ↔
      ∃ a b, Template.ofPath first = .ok a ∧ Template.ofPath second = .ok b ∧
        a.fits second.toList = false ∧ b.fits first.toList = false := by
  unfold overlaps
  cases firstAt : Template.ofPath first with
  | error fault => simp only [bind, Except.bind, reduceCtorEq, false_and, exists_false]
  | ok a =>
      cases secondAt : Template.ofPath second with
      | error fault =>
          simp only [bind, Except.bind, reduceCtorEq, false_and, and_false, exists_false]
      | ok b =>
          simp only [bind, Except.bind, pure, Except.pure, Except.ok.injEq, Bool.or_eq_false_iff]
          constructor
          · intro apart
            exact ⟨a, b, rfl, rfl, apart.1, apart.2⟩
          · rintro ⟨_, _, rfl, rfl, notSecond, notFirst⟩
            exact ⟨notSecond, notFirst⟩

theorem overlaps_false_symm {first second : String} (apart : overlaps first second = .ok false) :
    overlaps second first = .ok false := by
  obtain ⟨a, b, firstAt, secondAt, notFirst, notSecond⟩ := (overlaps_eq_false_iff _ _).mp apart
  exact (overlaps_eq_false_iff _ _).mpr ⟨b, a, secondAt, firstAt, notSecond, notFirst⟩

/-- A key does not collide with what another owns: the methods differ or the templates do not
overlap. -/
def Clear (key : String × String) (method path : String) : Prop :=
  method = key.1 → overlaps key.2 path = .ok false

theorem firstOverlap_eq_none_iff (method path : String) (owned : List Owned) :
    firstOverlap method path owned = .ok none ↔
      ∀ other ∈ owned, Clear (method, path) other.method other.path := by
  induction owned with
  | nil => simp only [firstOverlap, List.not_mem_nil, false_implies, implies_true]
  | cons other rest ih =>
      rw [List.forall_mem_cons, ← ih]
      simp only [firstOverlap, Clear]
      by_cases same : other.method = method
      · rw [if_pos same]
        simp only [same, true_implies]
        cases overlaps path other.path with
        | error fault => simp only [reduceCtorEq, false_and]
        | ok answer => cases answer <;>
            simp only [Except.ok.injEq, reduceCtorEq, true_and, false_and, Bool.true_eq_false]
      · rw [if_neg same]
        simp only [same, false_implies, true_and]

theorem checkKeys_eq_ok_iff (names : List String) (module : String) (owned : List Owned)
    (keys : List (String × String)) :
    checkKeys names module owned keys = .ok () ↔
      ∀ key ∈ keys, ∀ other ∈ owned, Clear key other.method other.path := by
  induction keys with
  | nil => simp only [checkKeys, List.not_mem_nil, false_implies, implies_true]
  | cons key rest ih =>
      obtain ⟨method, path⟩ := key
      rw [List.forall_mem_cons, ← ih, ← firstOverlap_eq_none_iff]
      simp only [checkKeys]
      cases firstOverlap method path owned with
      | error fault => simp only [reduceCtorEq, false_and]
      | ok found => cases found <;>
          simp only [Except.ok.injEq, reduceCtorEq, true_and, false_and]

/-! ### Building -/

def router (settings : Settings) (m : FeatureModule α) : Built α := ⟨m, m.routes settings⟩

def Apart (settings : Settings) (a b : FeatureModule α) : Prop :=
  ∀ key ∈ b.keys settings, ∀ other ∈ a.keys settings, Clear key other.1 other.2

theorem Apart.symm {settings : Settings} {a b : FeatureModule α} (apart : Apart settings a b) :
    Apart settings b a := by
  intro key member other otherMember sameMethod
  exact overlaps_false_symm (apart other otherMember key member sameMethod.symm)

/-- What the checks of one module and of those after it establish, given what is owned already. -/
structure Buildable (settings : Settings) (owned : List Owned)
    (modules : List (FeatureModule α)) : Prop where
  built : ∀ m ∈ modules, ∃ routes, m.build settings = .ok routes
  free : ∀ m ∈ modules, ∀ key ∈ m.keys settings, ∀ other ∈ owned,
    Clear key other.method other.path
  apart : modules.Pairwise (Apart settings)

def ownedKeys (settings : Settings) (m : FeatureModule α) : List Owned :=
  (m.keys settings).map fun (method, path) => ⟨method, path, m.name⟩

theorem buildable_cons_iff (settings : Settings) (owned : List Owned) (m : FeatureModule α)
    (rest : List (FeatureModule α)) :
    Buildable settings owned (m :: rest) ↔
      (∃ routes, m.build settings = .ok routes) ∧
      (∀ key ∈ m.keys settings, ∀ other ∈ owned, Clear key other.method other.path) ∧
      Buildable settings (owned ++ ownedKeys settings m) rest := by
  constructor
  · intro buildable
    have apart := List.pairwise_cons.mp buildable.apart
    refine ⟨buildable.built m List.mem_cons_self, buildable.free m List.mem_cons_self,
      fun other member => buildable.built other (List.mem_cons_of_mem m member), ?_, apart.2⟩
    intro other member key keyMember owner ownerMember
    rcases List.mem_append.mp ownerMember with before | fresh
    · exact buildable.free other (List.mem_cons_of_mem m member) key keyMember owner before
    · obtain ⟨own, ownMember, rfl⟩ := List.mem_map.mp fresh
      exact apart.1 other member key keyMember own ownMember
  · rintro ⟨built, free, rest⟩
    refine ⟨List.forall_mem_cons.mpr ⟨built, rest.built⟩,
      List.forall_mem_cons.mpr ⟨free, ?_⟩, List.pairwise_cons.mpr ⟨?_, rest.apart⟩⟩
    · intro other member key keyMember owner before
      exact rest.free other member key keyMember owner (List.mem_append_left _ before)
    · intro other member key keyMember own ownMember
      exact rest.free other member key keyMember ⟨own.1, own.2, m.name⟩
        (List.mem_append_right _ (List.mem_map.mpr ⟨own, ownMember, rfl⟩))

theorem buildAll_eq_ok_iff (settings : Settings) (names : List String) (owned : List Owned)
    (modules : List (FeatureModule α)) (built : List (Built α)) :
    buildAll settings names owned modules = .ok built ↔
      Buildable settings owned modules ∧ built = modules.map (router settings) := by
  induction modules generalizing owned built with
  | nil =>
      simp only [buildAll, Except.ok.injEq, List.map_nil]
      constructor
      · intro same
        refine ⟨⟨?_, ?_, List.Pairwise.nil⟩, same.symm⟩
        · intro m impossible
          cases impossible
        · intro m impossible
          cases impossible
      · intro both
        exact both.2.symm
  | cons m rest ih =>
      rw [buildable_cons_iff]
      cases found : m.build settings with
      | error fault =>
          simp only [buildAll, found, reduceCtorEq, exists_false, false_and]
      | ok routes =>
          have keysAt : routeKeys m.base routes = m.keys settings := by
            rw [FeatureModule.keys, FeatureModule.routes_of_build found]
          have routerAt : (⟨m, routes⟩ : Built α) = router settings m := by
            rw [router, FeatureModule.routes_of_build found]
          simp only [buildAll, found, keysAt, routerAt]
          have checked := checkKeys_eq_ok_iff names m.name owned (m.keys settings)
          cases answer : checkKeys names m.name owned (m.keys settings) with
          | error fault =>
              rw [answer] at checked
              simp only [reduceCtorEq, false_iff] at checked
              simp only [reduceCtorEq, checked, false_and, and_false]
          | ok _ =>
              have free := checked.mp answer
              simp only [Except.ok.injEq, exists_eq', true_and]
              have later := ih (owned ++ ownedKeys settings m)
              change (buildAll settings names (owned ++ ownedKeys settings m) rest).map
                (router settings m :: ·) = .ok built ↔ _
              cases tail : buildAll settings names (owned ++ ownedKeys settings m) rest with
              | error fault =>
                  simp only [Except.map, reduceCtorEq, false_iff, not_and]
                  intro both _same
                  have impossible := (later _).mpr ⟨both.2, rfl⟩
                  rw [tail] at impossible
                  cases impossible
              | ok more =>
                  obtain ⟨buildable, moreAt⟩ := (later more).mp tail
                  subst moreAt
                  simp only [Except.map, Except.ok.injEq, List.map_cons]
                  constructor
                  · intro same
                    exact ⟨⟨free, buildable⟩, same.symm⟩
                  · intro both
                    exact both.2.symm

end Composition

end SavingsSite
