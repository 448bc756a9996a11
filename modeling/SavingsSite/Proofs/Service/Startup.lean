import SavingsSite.Proofs.Service.Refinement
import SavingsSite.Proofs.Settings.Accessor

set_option autoImplicit false

/-! The application that a process makes. Its settings are those that the accessor gives, and a
process whose settings do not load makes none. -/

namespace SavingsSite.Service

open Settings (Held Report Session SessionFault SessionReply SessionStep Source)

/-- An application is made of the settings in this object, which tells what it serves. -/
structure MadeOf (docs : Documentation) (held : Held) (told : Report) (site : Site) : Prop where
  created : (create docs site.settings defaultModules).site = .ok site
  object : held.object = site.settings.object
  told : told = Settings.fullReport site.settings

theorem exists_madeOf (docs : Documentation) {held : Held} {settings : Settings}
    (object : held.object = settings.object) :
    ∃ site, MadeOf docs held (Settings.fullReport settings) site :=
  ⟨shippedSite docs settings, create_shipped docs settings, object, rfl⟩

theorem createApp_effect (docs : Documentation) {s next : Session}
    {answer : Except SessionFault SessionReply}
    (effect : Session.Effect s .createApp answer next) :
    (∃ fault, answer = .error (.load fault) ∧ Settings.load s.source = .error fault ∧ next = s) ∨
    ∃ held told same site, answer = .ok (.settings held told same) ∧
      MadeOf docs held told site := by
  cases effect with
  | outside _ _ quiet => cases quiet.1
  | failed _ _ fault load => exact Or.inl ⟨fault, rfl, load, rfl⟩
  | recalled _ _ held settings _ object same =>
      obtain ⟨site, made⟩ := exists_madeOf docs object
      exact Or.inr ⟨held, _, same, site, rfl, made⟩
  | loaded _ _ settings _ same =>
      have object : (⟨s.loads, settings.object⟩ : Held).object = settings.object := rfl
      obtain ⟨site, made⟩ := exists_madeOf docs object
      exact Or.inr ⟨_, _, same, site, rfl, made⟩

/-- After any steps that assign to keys alone, a process makes an application of the settings that
the accessor gives it then, or fails to load them and stays as it was. -/
theorem createApp_after (docs : Documentation) (source : Source) (steps : List SessionStep)
    (onKeys : ∀ step ∈ steps, ∀ name ∈ step.assigned?, name ∈ Settings.keys) :
    let session := Session.after { source } steps
    (∃ fault, session.perform .createApp = (.error (.load fault), session) ∧
      Settings.load session.source = .error fault) ∨
    ∃ held told same site, (session.perform .createApp).1 = .ok (.settings held told same) ∧
      MadeOf docs held told site := by
  intro session
  have sound : session.Sound := (Settings.Tracks.of_history source steps onKeys).sound
  have onKey : ∀ name, SessionStep.createApp.assigned? = some name → name ∈ Settings.keys := nofun
  have effect := Session.effect_of_perform sound onKey
  rcases createApp_effect docs effect with ⟨fault, answered, load, kept⟩ | made
  · exact Or.inl ⟨fault, Prod.ext answered kept, load⟩
  · exact Or.inr made

end SavingsSite.Service
