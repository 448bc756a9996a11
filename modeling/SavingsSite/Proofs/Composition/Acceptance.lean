import SavingsSite.Proofs.Composition.Checks

set_option autoImplicit false

/-! What composition does, in three cases: nothing is mounted since a check fails, or the routers
are mounted up to the first whose base is faulty, or all of them are mounted. Which modules are
accepted does not depend on their order. -/

namespace SavingsSite

open Routing

variable {α : Type}

namespace FeatureModule

def entries (settings : Settings) (m : FeatureModule α) : List (Entry α) :=
  Entry.ofRouter m.base (m.routes settings)

def baseFault? (settings : Settings) (m : FeatureModule α) : Option RouteFault :=
  Composition.baseFault? m.base (m.routes settings)

end FeatureModule

namespace Composition

/-! ### Mounting -/

theorem mountAll_of_sound (settings : Settings) (mounted : List (Entry α))
    (modules : List (FeatureModule α)) (sound : ∀ m ∈ modules, m.baseFault? settings = none) :
    mountAll mounted (modules.map (router settings)) =
      ⟨mounted ++ modules.flatMap (FeatureModule.entries settings), modules.map mountRecord,
        none⟩ := by
  induction modules generalizing mounted with
  | nil => simp only [List.map_nil, mountAll, List.flatMap_nil, List.append_nil]
  | cons m rest ih =>
      have first : baseFault? m.base (m.routes settings) = none := sound m List.mem_cons_self
      simp only [List.map_cons, mountAll, router, first]
      have later := ih (mounted ++ m.entries settings)
        (fun other member => sound other (List.mem_cons_of_mem m member))
      simp only [FeatureModule.entries] at later
      rw [later]
      simp only [List.flatMap_cons, FeatureModule.entries, List.append_assoc]

theorem mountAll_of_faulty (settings : Settings) (mounted : List (Entry α))
    (early : List (FeatureModule α)) (m : FeatureModule α) (late : List (FeatureModule α))
    (fault : RouteFault) (sound : ∀ e ∈ early, e.baseFault? settings = none)
    (faulty : m.baseFault? settings = some fault) :
    mountAll mounted ((early ++ m :: late).map (router settings)) =
      ⟨mounted ++ early.flatMap (FeatureModule.entries settings), early.map mountRecord,
        some fault⟩ := by
  induction early generalizing mounted with
  | nil =>
      have first : baseFault? m.base (m.routes settings) = some fault := faulty
      simp only [List.nil_append, List.map_cons, mountAll, router, first, List.flatMap_nil,
        List.append_nil, List.map_nil]
  | cons e rest ih =>
      have first : baseFault? e.base (e.routes settings) = none := sound e List.mem_cons_self
      simp only [List.cons_append, List.map_cons, mountAll, router, first]
      have later := ih (mounted ++ e.entries settings)
        (fun other member => sound other (List.mem_cons_of_mem e member))
      simp only [FeatureModule.entries] at later
      rw [later]
      simp only [List.flatMap_cons, FeatureModule.entries, List.append_assoc]

theorem sound_or_faulty (settings : Settings) (modules : List (FeatureModule α)) :
    (∀ m ∈ modules, m.baseFault? settings = none) ∨
      ∃ early m late fault, modules = early ++ m :: late ∧
        (∀ e ∈ early, e.baseFault? settings = none) ∧ m.baseFault? settings = some fault := by
  induction modules with
  | nil =>
      left
      intro m impossible
      cases impossible
  | cons m rest ih =>
      cases first : m.baseFault? settings with
      | some fault =>
          right
          refine ⟨[], m, rest, fault, rfl, ?_, first⟩
          intro e impossible
          cases impossible
      | none =>
          rcases ih with sound | ⟨early, faulty, late, fault, rfl, sound, found⟩
          · exact Or.inl (List.forall_mem_cons.mpr ⟨first, sound⟩)
          · exact Or.inr ⟨m :: early, faulty, late, fault, rfl,
              List.forall_mem_cons.mpr ⟨first, sound⟩, found⟩

/-! ### Composition as a whole -/

def reservedKeys (reserved : List (String × String)) : List Owned :=
  reserved.map fun pair => ⟨pair.1, pair.2, "app"⟩

/-- The checks before mounting succeed: names are unique, every module has a router, and no key of
a module collides with a reserved one or with one of another module. -/
structure Checked (settings : Settings) (reserved : List (String × String))
    (modules : List (FeatureModule α)) : Prop where
  names : (modules.map FeatureModule.name).Nodup
  built : ∀ m ∈ modules, ∃ routes, m.build settings = .ok routes
  unreserved : ∀ m ∈ modules, ∀ key ∈ m.keys settings, ∀ pair ∈ reserved, Clear key pair.1 pair.2
  apart : modules.Pairwise (Apart settings)

theorem checked_iff (settings : Settings) (reserved : List (String × String))
    (modules : List (FeatureModule α)) :
    Checked settings reserved modules ↔
      (modules.map FeatureModule.name).Nodup ∧
        Buildable settings (reservedKeys reserved) modules := by
  constructor
  · intro checked
    refine ⟨checked.names, checked.built, ?_, checked.apart⟩
    intro m member key keyMember owner ownerMember
    obtain ⟨pair, pairMember, rfl⟩ := List.mem_map.mp ownerMember
    exact checked.unreserved m member key keyMember pair pairMember
  · rintro ⟨names, buildable⟩
    refine ⟨names, buildable.built, ?_, buildable.apart⟩
    intro m member key keyMember pair pairMember
    exact buildable.free m member key keyMember ⟨pair.1, pair.2, "app"⟩
      (List.mem_map.mpr ⟨pair, pairMember, rfl⟩)

theorem Checked.perm {settings : Settings} {reserved : List (String × String)}
    {modules reordered : List (FeatureModule α)} (checked : Checked settings reserved modules)
    (order : reordered.Perm modules) : Checked settings reserved reordered where
  names := (order.map FeatureModule.name).nodup_iff.mpr checked.names
  built := fun m member => checked.built m (order.mem_iff.mp member)
  unreserved := fun m member => checked.unreserved m (order.mem_iff.mp member)
  apart := (order.pairwise_iff Apart.symm).mpr checked.apart

structure Accepted (settings : Settings) (reserved : List (String × String))
    (modules : List (FeatureModule α)) : Prop where
  checked : Checked settings reserved modules
  sound : ∀ m ∈ modules, m.baseFault? settings = none

theorem Accepted.perm {settings : Settings} {reserved : List (String × String)}
    {modules reordered : List (FeatureModule α)} (accepted : Accepted settings reserved modules)
    (order : reordered.Perm modules) : Accepted settings reserved reordered where
  checked := accepted.checked.perm order
  sound := fun m member => accepted.sound m (order.mem_iff.mp member)

theorem compose_of_unchecked (mounted : List (Entry α)) (modules : List (FeatureModule α))
    (settings : Settings) (reserved : List (String × String))
    (unchecked : ¬ Checked settings reserved modules) :
    ∃ fault, compose mounted modules settings reserved = ⟨mounted, [], .error fault⟩ := by
  rw [checked_iff] at unchecked
  have unique := repeatedNames_isEmpty_iff (modules.map FeatureModule.name)
  have built := buildAll_eq_ok_iff settings (modules.map FeatureModule.name)
    (reservedKeys reserved) modules
  unfold compose
  cases empty : (repeatedNames (modules.map FeatureModule.name)).isEmpty with
  | false =>
      simp only [empty, Bool.not_false, if_true]
      exact ⟨_, rfl⟩
  | true =>
      simp only [empty, Bool.not_true, Bool.false_eq_true, if_false]
      simp only [reservedKeys] at built unchecked
      cases answer : buildAll settings (modules.map FeatureModule.name)
          (reserved.map fun pair => ⟨pair.1, pair.2, "app"⟩) modules with
      | error fault => exact ⟨fault, rfl⟩
      | ok found => exact absurd ⟨unique.mp empty, ((built found).mp answer).1⟩ unchecked

theorem compose_of_checked (mounted : List (Entry α)) (modules : List (FeatureModule α))
    (settings : Settings) (reserved : List (String × String))
    (checked : Checked settings reserved modules) :
    compose mounted modules settings reserved =
      let work := mountAll mounted (modules.map (router settings))
      ⟨work.table, work.log,
        match work.fault with
        | some fault => .error (.route fault)
        | none => .ok (modules.map FeatureModule.name)⟩ := by
  obtain ⟨names, buildable⟩ := (checked_iff settings reserved modules).mp checked
  have unique := (repeatedNames_isEmpty_iff (modules.map FeatureModule.name)).mpr names
  have built := (buildAll_eq_ok_iff settings (modules.map FeatureModule.name)
    (reservedKeys reserved) modules _).mpr ⟨buildable, rfl⟩
  simp only [reservedKeys] at built
  unfold compose
  simp only [unique, Bool.not_true, Bool.false_eq_true, if_false, built]
  cases (mountAll mounted (modules.map (router settings))).fault with
  | none => rfl
  | some fault => rfl

theorem compose_of_accepted (mounted : List (Entry α)) (modules : List (FeatureModule α))
    (settings : Settings) (reserved : List (String × String))
    (accepted : Accepted settings reserved modules) :
    compose mounted modules settings reserved =
      ⟨mounted ++ modules.flatMap (FeatureModule.entries settings), modules.map mountRecord,
        .ok (modules.map FeatureModule.name)⟩ := by
  rw [compose_of_checked mounted modules settings reserved accepted.checked,
    mountAll_of_sound settings mounted modules accepted.sound]

theorem compose_of_faulty (mounted : List (Entry α)) (settings : Settings)
    (reserved : List (String × String)) (early : List (FeatureModule α)) (m : FeatureModule α)
    (late : List (FeatureModule α)) (fault : RouteFault)
    (checked : Checked settings reserved (early ++ m :: late))
    (sound : ∀ e ∈ early, e.baseFault? settings = none)
    (faulty : m.baseFault? settings = some fault) :
    compose mounted (early ++ m :: late) settings reserved =
      ⟨mounted ++ early.flatMap (FeatureModule.entries settings), early.map mountRecord,
        .error (.route fault)⟩ := by
  rw [compose_of_checked mounted _ settings reserved checked,
    mountAll_of_faulty settings mounted early m late fault sound faulty]

theorem compose_answer_eq_ok_iff (mounted : List (Entry α)) (modules : List (FeatureModule α))
    (settings : Settings) (reserved : List (String × String)) :
    (∃ names, (compose mounted modules settings reserved).answer = .ok names) ↔
      Accepted settings reserved modules := by
  constructor
  · rintro ⟨names, answer⟩
    by_cases checked : Checked settings reserved modules
    · rcases sound_or_faulty settings modules with
        sound | ⟨early, m, late, fault, rfl, sound, faulty⟩
      · exact ⟨checked, sound⟩
      · rw [compose_of_faulty mounted settings reserved early m late fault checked sound
          faulty] at answer
        cases answer
    · obtain ⟨fault, refused⟩ := compose_of_unchecked mounted modules settings reserved checked
      rw [refused] at answer
      cases answer
  · intro accepted
    rw [compose_of_accepted mounted modules settings reserved accepted]
    exact ⟨_, rfl⟩

end Composition

end SavingsSite
