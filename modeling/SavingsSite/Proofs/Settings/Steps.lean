import SavingsSite.Proofs.Settings.Keys
import SavingsSite.Settings.Session

set_option autoImplicit false

/-! What one step of a session does, as long as all objects in it are those of settings: keys cannot
be assigned, so no step makes another object of one that is there. -/

namespace SavingsSite.Settings

open Schema

def fullReport (settings : Settings) : Report :=
  ⟨settings.toJson, Json.ofStrings settings.allowedOrigins, .flag settings.isDevelopment,
    .flag settings.isProduction⟩

theorem assign_key (settings : Settings) {name : String} (key : name ∈ keys) (value : Json) :
    kind.assign settings.object name value =
      (some (.frozen ⟨.frozen, [.field name], value⟩), settings.object) := by
  rw [keys_eq, List.mem_map] at key
  obtain ⟨key, _, rfl⟩ := key
  cases key <;> rfl

namespace SessionStep

/-- A call of the accessor, by itself or for a new application. -/
def isAccess : SessionStep → Bool
  | get | createApp => true
  | _ => false

def assigned? : SessionStep → Option String
  | assign name _ => some name
  | _ => none

end SessionStep

def Source.follow (source : Source) : SessionStep → Source
  | .setVariable name value =>
      match Environment.fault? name value with
      | some _ => source
      | none => { source with env := source.env.set name value }
  | .unsetVariable name => { source with env := source.env.erase name }
  | .writeFile text => { source with file := text }
  | _ => source

theorem Source.follow_of_isAccess (source : Source) {step : SessionStep}
    (access : step.isAccess = true) : source.follow step = source := by
  cases step with
  | get => rfl
  | createApp => rfl
  | _ => cases access

namespace Session

/-- Every object of a session is that of some settings, numbered by a load of the past. -/
structure Sound (s : Session) : Prop where
  cached : ∀ held, s.cached = some held →
    held.serial < s.loads ∧ ∃ settings : Settings, held.object = settings.object
  last : ∀ held, s.last = some held →
    held.serial < s.loads ∧ ∃ settings : Settings, held.object = settings.object
  one : ∀ held other, s.cached = some held → s.last = some other → held.serial = other.serial →
    held = other

/-- A step that reads the source: a load, or an access while nothing is cached. -/
def Reads (s : Session) (step : SessionStep) : Prop :=
  (step.isAccess = true ∧ s.cached = none) ∨ step = .load

theorem Reads.cached_eq_none {s : Session} {step : SessionStep} (reads : s.Reads step)
    (access : step.isAccess = true) : s.cached = none := by
  rcases reads with ⟨_, empty⟩ | rfl
  · exact empty
  · cases access

theorem Reads.assigned?_eq_none {s : Session} {step : SessionStep} (reads : s.Reads step) :
    step.assigned? = none := by
  rcases reads with ⟨access, _⟩ | rfl
  · cases step with
    | assign => cases access
    | _ => rfl
  · rfl

/-- What a step answers and what it makes of a session. -/
inductive Effect (s : Session) :
    SessionStep → Except SessionFault SessionReply → Session → Prop
  | outside (step : SessionStep) (answer : Except SessionFault SessionReply)
      (quiet : step.isAccess = false ∧ step ≠ .load ∧ step ≠ .clear ∧ step.assigned? = none)
      (silent : ∀ held report same, answer ≠ .ok (.settings held report same)) :
      Effect s step answer { s with source := s.source.follow step }
  | cleared : Effect s .clear (.ok .done) { s with cached := none }
  | recalled (step : SessionStep) (access : step.isAccess = true) (held : Held)
      (settings : Settings) (kept : s.cached = some held) (object : held.object = settings.object)
      (same : Bool) :
      Effect s step (.ok (.settings held (fullReport settings) same)) { s with last := some held }
  | failed (step : SessionStep) (reads : s.Reads step) (fault : LoadFault)
      (load : Settings.load s.source = .error fault) :
      Effect s step (.error (.load fault)) s
  | loaded (step : SessionStep) (reads : s.Reads step) (settings : Settings)
      (load : Settings.load s.source = .ok settings) (same : Bool) :
      Effect s step (.ok (.settings ⟨s.loads, settings.object⟩ (fullReport settings) same))
        { s with
          cached := if step.isAccess then some ⟨s.loads, settings.object⟩ else s.cached
          last := some ⟨s.loads, settings.object⟩
          loads := s.loads + 1 }
  | assigned (name : String) (value : Json) (fault : ObjectFault)
      (frozen : s.last ≠ none → fault = .frozen ⟨.frozen, [.field name], value⟩) :
      Effect s (.assign name value) (.error (.object fault)) s

theorem obtain_object (s : Session) (held : Held) {settings : Settings}
    (object : held.object = settings.object) :
    ∃ same, s.obtain held =
      (.ok (.settings held (fullReport settings) same), { s with last := some held }) := by
  refine ⟨decide (s.last.map Held.serial = some held.serial), ?_⟩
  simp only [obtain, object, report_object, fullReport]

theorem effect_of_access {s : Session} (sound : s.Sound)
    {check : RecordObject → Except ObjectFault Unit}
    (passes : ∀ settings : Settings, check settings.object = .ok ()) {step : SessionStep}
    (access : step.isAccess = true) :
    Effect s step (answer check s.access).1 (answer check s.access).2 := by
  unfold Session.access
  cases cached : s.cached with
  | some held =>
      obtain ⟨_, settings, object⟩ := sound.cached held cached
      obtain ⟨same, obtained⟩ := s.obtain_object held object
      simp only [answer, object, passes, obtained]
      exact .recalled step access held settings cached object same
  | none =>
      unfold loadNow
      cases load : Settings.load s.source with
      | error fault => exact .failed step (Or.inl ⟨access, cached⟩) fault load
      | ok settings =>
          have effect := Effect.loaded step (Or.inl ⟨access, cached⟩) settings load
          rw [access, if_pos rfl] at effect
          obtain ⟨same, obtained⟩ := obtain_object
            { s with cached := some ⟨s.loads, settings.object⟩, loads := s.loads + 1 }
            ⟨s.loads, settings.object⟩ rfl
          simp only [answer, passes, obtained]
          exact effect same

theorem effect_of_load (s : Session) :
    Effect s .load (s.perform .load).1 (s.perform .load).2 := by
  simp only [perform, loadNow]
  cases load : Settings.load s.source with
  | error fault => exact .failed .load (Or.inr rfl) fault load
  | ok settings =>
      obtain ⟨same, obtained⟩ := obtain_object { s with loads := s.loads + 1 }
        ⟨s.loads, settings.object⟩ rfl
      simp only [answer, obtained]
      exact .loaded .load (Or.inr rfl) settings load same

theorem effect_of_assign {s : Session} (sound : s.Sound) {name : String} (key : name ∈ keys)
    (value : Json) :
    Effect s (.assign name value) (s.perform (.assign name value)).1
      (s.perform (.assign name value)).2 := by
  simp only [perform, assignLast]
  cases last : s.last with
  | none => exact .assigned name value _ fun obtained => absurd last obtained
  | some held =>
      obtain ⟨_, settings, object⟩ := sound.last held last
      have unrevised : s.cached.map (·.revise held) = s.cached := by
        cases cached : s.cached with
        | none => rfl
        | some first =>
            simp only [Option.map_some, Held.revise, ite_eq_right_iff, Option.some.injEq]
            exact fun one => (sound.one first held cached last one).symm
      have same : Held.mk held.serial settings.object = held := by rw [← object]
      have kept : { s with last := some held, cached := s.cached } = s := by rw [← last]
      simp only [object, assign_key settings key, same, unrevised, kept]
      exact .assigned name value _ fun _ => rfl

theorem effect_of_perform {s : Session} (sound : s.Sound) {step : SessionStep}
    (onKey : ∀ name, step.assigned? = some name → name ∈ keys) :
    Effect s step (s.perform step).1 (s.perform step).2 := by
  cases step with
  | setVariable name value =>
      have effect := Effect.outside (s := s) (.setVariable name value)
      simp only [Source.follow] at effect
      simp only [perform]
      cases fault : Environment.fault? name value with
      | some fault =>
          simp only [fault] at effect
          exact effect _ ⟨rfl, by simp, by simp, rfl⟩ (by simp)
      | none =>
          simp only [fault] at effect
          exact effect _ ⟨rfl, by simp, by simp, rfl⟩ (by simp)
  | unsetVariable name =>
      exact .outside (.unsetVariable name) _ ⟨rfl, by simp, by simp, rfl⟩ (by simp [perform])
  | writeFile text =>
      exact .outside (.writeFile text) _ ⟨rfl, by simp, by simp, rfl⟩ (by simp [perform])
  | clear => exact .cleared
  | get => exact effect_of_access sound (fun _ => rfl) rfl
  | load => exact s.effect_of_load
  | createApp => exact effect_of_access sound prepare_object rfl
  | assign name value => exact effect_of_assign sound (onKey name rfl) value

namespace Sound

theorem start (source : Source) : Sound { source } where
  cached := nofun
  last := nofun
  one := nofun

theorem step {s next : Session} {step : SessionStep}
    {answer : Except SessionFault SessionReply} (sound : s.Sound)
    (effect : Effect s step answer next) : next.Sound := by
  cases effect with
  | outside => exact { sound with }
  | cleared => exact { sound with cached := nofun, one := nofun }
  | recalled _ _ held settings kept object =>
      refine { sound with last := ?_, one := ?_ }
      · rintro _ ⟨⟩
        exact sound.cached held kept
      · rintro first _ cached ⟨⟩ _
        exact Option.some_inj.mp (cached.symm.trans kept)
  | failed => exact sound
  | loaded _ _ settings =>
      have fresh : s.loads < s.loads + 1 ∧ ∃ own : Settings, settings.object = own.object :=
        ⟨Nat.lt_succ_self s.loads, settings, rfl⟩
      have older (held : Held) (cached : s.cached = some held) : held.serial < s.loads :=
        (sound.cached held cached).1
      constructor
      · intro held cached
        dsimp only at cached
        split at cached
        · cases cached
          exact fresh
        · exact ⟨Nat.lt_succ_of_lt (older held cached), (sound.cached held cached).2⟩
      · rintro _ ⟨⟩
        exact fresh
      · rintro held _ cached ⟨⟩ same
        dsimp only at cached
        split at cached
        · exact (Option.some_inj.mp cached).symm
        · exact absurd same (Nat.ne_of_lt (older held cached))
  | assigned => exact sound

end Sound

/-! ### What follows from an effect -/

namespace Effect

variable {s next : Session} {step : SessionStep} {answer : Except SessionFault SessionReply}

theorem source (effect : Effect s step answer next) : next.source = s.source.follow step := by
  cases effect with
  | outside => rfl
  | cleared => rfl
  | recalled _ access => exact (s.source.follow_of_isAccess access).symm
  | failed _ reads =>
      rcases reads with ⟨access, _⟩ | rfl
      · exact (s.source.follow_of_isAccess access).symm
      · rfl
  | loaded _ reads =>
      rcases reads with ⟨access, _⟩ | rfl
      · exact (s.source.follow_of_isAccess access).symm
      · rfl
  | assigned => rfl

theorem serial_lt (effect : Effect s step answer next) (sound : s.Sound) {held : Held}
    {told : Report} {same : Bool} (gives : answer = .ok (.settings held told same)) :
    held.serial < next.loads := by
  cases effect with
  | outside _ _ _ silent => exact absurd gives (silent held told same)
  | cleared => cases gives
  | recalled _ _ first settings kept =>
      cases gives
      exact (sound.cached held kept).1
  | failed => cases gives
  | loaded =>
      cases gives
      exact Nat.lt_succ_self s.loads
  | assigned => cases gives

theorem loads_le (effect : Effect s step answer next) : s.loads ≤ next.loads := by
  cases effect with
  | loaded => exact Nat.le_succ s.loads
  | _ => exact Nat.le_refl s.loads

theorem last_ne_none (effect : Effect s step answer next)
    (obtained : s.last ≠ none ∨ ∃ held told same, answer = .ok (.settings held told same)) :
    next.last ≠ none := by
  cases effect with
  | recalled => exact Option.some_ne_none _
  | loaded => exact Option.some_ne_none _
  | outside _ _ _ silent =>
      refine obtained.resolve_right ?_
      rintro ⟨held, told, same, gives⟩
      exact silent held told same gives
  | _ => exact obtained.resolve_right nofun

theorem cached_iff (effect : Effect s step answer next) (held : Held) (told : Report) :
    (next.cached = some held ∧ report held.object = .ok told) ↔
      (step.isAccess = true ∧ ∃ same, answer = .ok (.settings held told same)) ∨
        (step ≠ .clear ∧ s.cached = some held ∧ report held.object = .ok told) := by
  have stays (access : step.isAccess = true) : step ≠ .clear := by
    rintro rfl
    cases access
  cases effect with
  | outside _ _ quiet silent =>
      simp only [quiet, Bool.false_eq_true, false_and, ne_eq, not_false_eq_true, true_and, false_or]
  | cleared =>
      simp only [SessionStep.isAccess, reduceCtorEq, Bool.false_eq_true, ne_eq, not_true_eq_false,
        false_and, or_self]
  | recalled _ access first settings kept object same =>
      constructor
      · intro remembered
        exact Or.inr ⟨stays access, remembered⟩
      · rintro (⟨_, _, gives⟩ | ⟨_, remembered⟩)
        · cases gives
          rw [object]
          exact ⟨kept, report_object settings⟩
        · exact remembered
  | failed _ reads =>
      rcases reads with ⟨access, empty⟩ | rfl
      · simp only [empty, reduceCtorEq, exists_const, false_and, and_false, or_self]
      · simp only [SessionStep.isAccess, Bool.false_eq_true, false_and, ne_eq, reduceCtorEq,
          not_false_eq_true, true_and, false_or]
  | loaded _ reads settings load same =>
      rcases reads with ⟨access, empty⟩ | rfl
      · constructor
        · rintro ⟨cached, tells⟩
          rw [access, if_pos rfl] at cached
          cases cached
          cases (report_object settings).symm.trans tells
          exact Or.inl ⟨access, same, rfl⟩
        · rintro (⟨_, _, gives⟩ | ⟨_, cached, _⟩)
          · cases gives
            rw [access, if_pos rfl]
            exact ⟨rfl, report_object settings⟩
          · cases empty.symm.trans cached
      · simp only [SessionStep.isAccess, Bool.false_eq_true, if_false, false_and, ne_eq,
          reduceCtorEq, not_false_eq_true, true_and, false_or]
  | assigned =>
      simp only [SessionStep.isAccess, Bool.false_eq_true, false_and, ne_eq, reduceCtorEq,
        not_false_eq_true, true_and, false_or]

end Effect

end Session

end SavingsSite.Settings
