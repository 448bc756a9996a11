import Mathlib.Data.List.Induction
import SavingsSite.Proofs.Settings.Steps

set_option autoImplicit false

/-! The accessor of the settings over any run. What it answers depends on the steps before it alone:
the settings that an access gave are remembered until the next clear, and while nothing is remembered
each access reads the source as the steps have left it. -/

namespace SavingsSite.Settings

/-- One step of a run, with the sessions on both sides of it. -/
structure Moment where
  before : Session
  step : SessionStep
  answer : Except SessionFault SessionReply
  after : Session

namespace Session

def moment (s : Session) (step : SessionStep) : Moment :=
  ⟨s, step, (s.perform step).1, (s.perform step).2⟩

def history (s : Session) : List SessionStep → List Moment
  | [] => []
  | step :: rest => s.moment step :: (s.perform step).2.history rest

def after (s : Session) : List SessionStep → Session
  | [] => s
  | step :: rest => (s.perform step).2.after rest

theorem map_step_history (s : Session) (steps : List SessionStep) :
    (s.history steps).map Moment.step = steps := by
  induction steps generalizing s with
  | nil => rfl
  | cons step rest ih => rw [history, List.map_cons, ih, moment]

theorem map_answer_history (s : Session) (steps : List SessionStep) :
    (s.history steps).map Moment.answer = s.performAll steps := by
  induction steps generalizing s with
  | nil => rfl
  | cons step rest ih =>
      rw [history, List.map_cons, ih]
      rfl

theorem history_concat (s : Session) (steps : List SessionStep) (step : SessionStep) :
    s.history (steps ++ [step]) = s.history steps ++ [(s.after steps).moment step] := by
  induction steps generalizing s with
  | nil => rfl
  | cons first rest ih => rw [List.cons_append, history, ih, history, after, List.cons_append]

theorem after_concat (s : Session) (steps : List SessionStep) (step : SessionStep) :
    s.after (steps ++ [step]) = ((s.after steps).perform step).2 := by
  induction steps generalizing s with
  | nil => rfl
  | cons first rest ih => rw [List.cons_append, after, ih, after]

theorem history_split {s : Session} {steps : List SessionStep} {early late : List Moment}
    {m : Moment} (split : s.history steps = early ++ m :: late) :
    ∃ first rest, steps = first ++ m.step :: rest ∧ early = s.history first ∧
      m = (s.after first).moment m.step := by
  induction early generalizing s steps with
  | nil =>
      cases steps with
      | nil => cases split
      | cons step rest =>
          cases split
          exact ⟨[], rest, rfl, rfl, rfl⟩
  | cons head tail ih =>
      cases steps with
      | nil => cases split
      | cons step rest =>
          obtain ⟨same, split⟩ := List.cons.inj split
          obtain ⟨first, last, rfl, rfl, own⟩ := ih split
          exact ⟨step :: first, last, rfl, by rw [history, same], own⟩

end Session

/-! ### What the steps before a moment have left -/

/-- The answer of a moment is a settings object, with what it tells. -/
def Moment.Gives (m : Moment) (held : Held) (told : Report) : Prop :=
  ∃ same, m.answer = .ok (.settings held told same)

/-- The source of settings after some moments of a run. -/
def sourceAfter (source : Source) (early : List Moment) : Source :=
  (early.map Moment.step).foldl Source.follow source

/-- An access gave these settings, and nothing was cleared since. -/
def Remembered (early : List Moment) (held : Held) (told : Report) : Prop :=
  ∃ old first recent, early = old ++ first :: recent ∧ first.step.isAccess = true ∧
    first.Gives held told ∧ ∀ m ∈ recent, m.step ≠ .clear

theorem remembered_concat_iff (early : List Moment) (m : Moment) (held : Held) (told : Report) :
    Remembered (early ++ [m]) held told ↔
      (m.step.isAccess = true ∧ m.Gives held told) ∨
        (m.step ≠ .clear ∧ Remembered early held told) := by
  constructor
  · rintro ⟨old, first, recent, split, access, gives, uncleared⟩
    rcases List.eq_nil_or_concat recent with rfl | ⟨between, last, rfl⟩
    · obtain ⟨_, same⟩ := List.append_inj' split rfl
      cases same
      exact Or.inl ⟨access, gives⟩
    · rw [List.concat_eq_append, ← List.cons_append, ← List.append_assoc] at split
      obtain ⟨before, same⟩ := List.append_inj' split rfl
      cases same
      rw [List.concat_eq_append, List.forall_mem_append, List.forall_mem_singleton] at uncleared
      exact Or.inr ⟨uncleared.2, old, first, between, before, access, gives, uncleared.1⟩
  · rintro (⟨access, gives⟩ | ⟨stays, old, first, recent, rfl, access, gives, uncleared⟩)
    · exact ⟨early, m, [], rfl, access, gives, List.forall_mem_nil _⟩
    · refine ⟨old, first, recent ++ [m], ?_, access, gives, ?_⟩
      · rw [List.append_assoc, List.cons_append]
      · rw [List.forall_mem_append, List.forall_mem_singleton]
        exact ⟨uncleared, stays⟩

theorem not_remembered_nil (held : Held) (told : Report) : ¬ Remembered [] held told := by
  rintro ⟨old, first, recent, split, _⟩
  exact List.append_ne_nil_of_right_ne_nil old (List.cons_ne_nil first recent) split.symm

def Obtained (early : List Moment) : Prop :=
  ∃ m ∈ early, ∃ held told, m.Gives held told

/-! ### What a session holds after a run -/

structure Tracks (source : Source) (early : List Moment) (s : Session) : Prop where
  sound : s.Sound
  source : s.source = sourceAfter source early
  numbered : ∀ m ∈ early, ∀ held told, m.Gives held told → held.serial < s.loads
  remembered_iff : ∀ held told,
    Remembered early held told ↔ s.cached = some held ∧ report held.object = .ok told
  obtained : Obtained early → s.last ≠ none

namespace Tracks

variable {source : Source} {early : List Moment} {s next : Session}
  {answer : Except SessionFault SessionReply}

theorem start (source : Source) : Tracks source [] { source } where
  sound := .start source
  source := rfl
  numbered := List.forall_mem_nil _
  remembered_iff held told := iff_of_false (not_remembered_nil held told) nofun
  obtained := by
    rintro ⟨m, member, _⟩
    cases member

theorem step (tracks : Tracks source early s) {step : SessionStep}
    (effect : Session.Effect s step answer next) :
    Tracks source (early ++ [⟨s, step, answer, next⟩]) next where
  sound := tracks.sound.step effect
  source := by
    rw [effect.source, tracks.source, sourceAfter, sourceAfter, List.map_append, List.foldl_append]
    rfl
  numbered := by
    rw [List.forall_mem_append, List.forall_mem_singleton]
    constructor
    · intro m member held told gives
      exact Nat.lt_of_lt_of_le (tracks.numbered m member held told gives) effect.loads_le
    · rintro held told ⟨same, gives⟩
      exact effect.serial_lt tracks.sound gives
  remembered_iff held told := by
    rw [remembered_concat_iff, effect.cached_iff held told, tracks.remembered_iff]
    rfl
  obtained := by
    rintro ⟨m, member, held, told, gives⟩
    apply effect.last_ne_none
    rcases List.mem_append.mp member with earlier | now
    · exact Or.inl (tracks.obtained ⟨m, earlier, held, told, gives⟩)
    · cases List.mem_singleton.mp now
      exact Or.inr ⟨held, told, gives⟩

theorem of_history (source : Source) (steps : List SessionStep)
    (onKeys : ∀ step ∈ steps, ∀ name ∈ step.assigned?, name ∈ keys) :
    Tracks source (Session.history { source } steps) (Session.after { source } steps) := by
  induction steps using List.reverseRecOn with
  | nil => exact start source
  | append_singleton early last ih =>
      rw [List.forall_mem_append, List.forall_mem_singleton] at onKeys
      have tracks := ih onKeys.1
      rw [Session.history_concat, Session.after_concat]
      exact tracks.step (Session.effect_of_perform tracks.sound onKeys.2)

end Tracks

/-! ### The answers of a run -/

/-- The settings of a source are read anew: they come in an object that was never given before, or
the load fails and leaves no trace. -/
def Moment.ReadsAnew (m : Moment) (source : Source) (early : List Moment) : Prop :=
  match load source with
  | .error fault => m.answer = .error (.load fault) ∧ m.after = m.before
  | .ok settings => ∃ held, held.object = settings.object ∧ m.Gives held (fullReport settings) ∧
      ∀ e ∈ early, ∀ other told, e.Gives other told → other.serial ≠ held.serial

structure Accounted (source : Source) (early : List Moment) (m : Moment) : Prop where
  again : m.step.isAccess = true → ∀ held told, Remembered early held told → m.Gives held told
  anew : m.step.isAccess = true → (∀ held told, ¬ Remembered early held told) →
    m.ReadsAnew (sourceAfter source early) early
  loaded : m.step = .load → m.ReadsAnew (sourceAfter source early) early ∧
    m.after.cached = m.before.cached ∧ m.after.source = m.before.source
  frozen : ∀ name value, m.step = .assign name value → m.after = m.before ∧
    (Obtained early → m.answer = .error (.object (.frozen ⟨.frozen, [.field name], value⟩)))

namespace Tracks

variable {source : Source} {early : List Moment} {s next : Session} {step : SessionStep}
  {answer : Except SessionFault SessionReply}

theorem readsAnew (tracks : Tracks source early s) (effect : Session.Effect s step answer next)
    (reads : s.Reads step) :
    Moment.ReadsAnew ⟨s, step, answer, next⟩ (sourceAfter source early) early := by
  cases effect with
  | outside _ _ quiet =>
      rcases reads with ⟨access, _⟩ | loads
      · exact absurd access (Bool.eq_false_iff.mp quiet.1)
      · exact absurd loads quiet.2.1
  | cleared =>
      rcases reads with ⟨access, _⟩ | loads
      · cases access
      · cases loads
  | recalled _ access first _ kept => cases kept.symm.trans (reads.cached_eq_none access)
  | failed _ _ fault load =>
      simp only [Moment.ReadsAnew, ← tracks.source, load, and_self]
  | loaded _ _ settings load same =>
      simp only [Moment.ReadsAnew, ← tracks.source, load]
      refine ⟨⟨s.loads, settings.object⟩, rfl, ⟨same, rfl⟩, ?_⟩
      intro e member other told gives
      exact Nat.ne_of_lt (tracks.numbered e member other told gives)
  | assigned =>
      rcases reads with ⟨access, _⟩ | loads
      · cases access
      · cases loads

theorem accounted (tracks : Tracks source early s) (effect : Session.Effect s step answer next) :
    Accounted source early ⟨s, step, answer, next⟩ where
  again := by
    intro access held told remembered
    obtain ⟨cached, tells⟩ := (tracks.remembered_iff held told).mp remembered
    cases effect with
    | recalled _ _ first settings kept object same =>
        cases cached.symm.trans kept
        rw [object, report_object] at tells
        cases tells
        exact ⟨same, rfl⟩
    | outside _ _ quiet => exact absurd access (Bool.eq_false_iff.mp quiet.1)
    | failed _ reads => cases cached.symm.trans (reads.cached_eq_none access)
    | loaded _ reads => cases cached.symm.trans (reads.cached_eq_none access)
    | cleared => cases access
    | assigned => cases access
  anew := by
    intro access forgotten
    apply tracks.readsAnew effect
    cases cached : s.cached with
    | none => exact Or.inl ⟨access, cached⟩
    | some held =>
        obtain ⟨_, settings, object⟩ := tracks.sound.cached held cached
        refine absurd ?_ (forgotten held (fullReport settings))
        rw [tracks.remembered_iff, object]
        exact ⟨cached, report_object settings⟩
  loaded := by
    rintro rfl
    refine ⟨tracks.readsAnew effect (Or.inr rfl), ?_, effect.source⟩
    cases effect with
    | outside => rfl
    | recalled => rfl
    | failed => rfl
    | loaded => rfl
  frozen := by
    rintro name value rfl
    cases effect with
    | outside _ _ quiet => cases quiet.2.2.2
    | recalled _ access => cases access
    | failed _ reads => cases reads.assigned?_eq_none
    | loaded _ reads => cases reads.assigned?_eq_none
    | assigned _ _ fault frozen =>
        refine ⟨rfl, fun given => ?_⟩
        rw [frozen (tracks.obtained given)]

end Tracks

/-- In every run that assigns to keys alone, each step is accounted for by those before it. -/
theorem accessor_remembers (source : Source) (steps : List SessionStep)
    (onKeys : ∀ step ∈ steps, ∀ name ∈ step.assigned?, name ∈ keys) :
    let history := Session.history { source } steps
    history.map Moment.step = steps ∧
      history.map Moment.answer = Session.performAll { source } steps ∧
      ∀ early m late, history = early ++ m :: late → Accounted source early m := by
  intro history
  refine ⟨Session.map_step_history _ steps, Session.map_answer_history _ steps, ?_⟩
  intro early m late split
  obtain ⟨first, rest, rfl, rfl, own⟩ := Session.history_split split
  rw [List.forall_mem_append, List.forall_mem_cons] at onKeys
  have tracks := Tracks.of_history source first onKeys.1
  rw [own]
  exact tracks.accounted (Session.effect_of_perform tracks.sound onKeys.2.1)

theorem accessor_remembers_repaired :
    let steps := [.get, .setVariable "STELLAR_RPC_URL" "https://rpc", .get,
      .setVariable "DEBUG" "yes", .load, .assign "DEBUG" (.flag true), .createApp]
    let history := Session.history {} steps
    (∀ step ∈ steps, ∀ name ∈ SessionStep.assigned? step, name ∈ keys) ∧
      history.map Moment.answer = Session.performAll {} steps ∧
      ∃ early m held told, history = early ++ [m] ∧ m.step.isAccess = true ∧
        Remembered early held told ∧ m.Gives held told := by
  intro steps history
  have onKeys : ∀ step ∈ steps, ∀ name ∈ SessionStep.assigned? step, name ∈ keys := by decide
  obtain ⟨_, answers, accounted⟩ := accessor_remembers ⟨[], none⟩ steps onKeys
  have remembered : Remembered (history.take 6) ⟨0, object { rpcUrl := "https://rpc" }⟩
      (fullReport { rpcUrl := "https://rpc" }) := by
    refine ⟨history.take 2, (Session.after {} (steps.take 2)).moment .get,
      (history.take 6).drop 3, rfl, rfl, ⟨false, rfl⟩, ?_⟩
    have recent : ((history.take 6).drop 3).map Moment.step =
        [.setVariable "DEBUG" "yes", .load, .assign "DEBUG" (.flag true)] := rfl
    intro m member
    have listed := recent ▸ List.mem_map_of_mem (f := Moment.step) member
    simp only [List.mem_cons, List.not_mem_nil, or_false] at listed
    rcases listed with step | step | step <;> rw [step] <;> exact nofun
  exact ⟨onKeys, answers, history.take 6, (Session.after {} (steps.take 6)).moment .createApp, _, _,
    rfl, rfl, remembered, (accounted (history.take 6) _ [] rfl).again rfl _ _ remembered⟩

end SavingsSite.Settings
