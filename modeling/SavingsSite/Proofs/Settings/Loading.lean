import SavingsSite.Proofs.Settings.Keys
import SavingsSite.Proofs.Text.Sorted
import SavingsSite.Service.Launch
import SavingsSite.Settings.Session

set_option autoImplicit false

/-! Loading settings either gives what the texts of the keys stand for, or names the keys that fail,
and no others. Whether a key fails depends on its own text alone. -/

namespace SavingsSite.Settings

open Schema

/-- The text of a key: of the process when it has one, else of the settings file. -/
def rawValue (env : Environment) (file : File.Bindings) (key : String) : Option String :=
  match present (env.get? key) with
  | some value => some value
  | none => present (File.value? file key)

/-- The text that counts for a key: of the process when it has one that is not empty, else of the
settings file. -/
def Source.text (source : Source) (key : Key) : Option String :=
  rawValue source.env source.bindings key.name

structure Valid (s : Settings) : Prop where
  rpcUrl : IsWebAddress s.rpcUrl.toList
  network : s.network.name ∈ ["testnet", "futurenet", "mainnet"]
  contractId : ∀ id, s.contractId = some id → IsContractId id.toList
  stage : s.stage.name ∈ ["development", "staging", "production"]
  port : 1 ≤ s.port ∧ s.port ≤ 65535

/-! ### Settings from sound texts -/

variable {text : Key → Option String}

theorem exists_rpcUrl (sound : ∀ key : Key, ¬ key.Fails (text key)) :
    ∃ address, text .rpcUrl = some address ∧ IsWebAddress address.toList := by
  have own := sound .rpcUrl
  cases found : text .rpcUrl with
  | none =>
      rw [found] at own
      exact absurd rfl own
  | some address =>
      rw [found] at own
      exact ⟨address, rfl, not_not.mp own⟩

theorem valid_ofTexts (sound : ∀ key : Key, ¬ key.Fails (text key)) : Valid (ofTexts text) := by
  obtain ⟨address, found, isAddress⟩ := exists_rpcUrl sound
  constructor
  · simp only [ofTexts, found, Option.getD_some]
    exact isAddress
  · cases (ofTexts text).network <;> decide
  · intro id given
    have own := sound .contractId
    rw [show text .contractId = some id from given] at own
    exact not_not.mp own
  · cases (ofTexts text).stage <;> decide
  · have own := sound .port
    cases found : text .port with
    | none =>
        simp only [ofTexts, found, Option.bind_none, Option.getD_none]
        decide
    | some spelling =>
        rw [found] at own
        obtain ⟨n, spelled, bounds⟩ := not_not.mp own
        simp only [ofTexts, found, Option.bind_some, spelled, Except.toOption, Option.getD_some]
        exact bounds

theorem value_ofTexts (sound : ∀ key : Key, ¬ key.Fails (text key)) (key : Key) :
    key.value (text key) = key.valueIn (ofTexts text) := by
  have own := sound key
  cases key with
  | rpcUrl =>
      obtain ⟨address, found, _⟩ := exists_rpcUrl sound
      simp only [Key.valueIn, ofTexts, found]
      rfl
  | network =>
      simp only [Key.valueIn, ofTexts]
      cases given : text .network with
      | none => rfl
      | some name =>
          rw [given] at own
          have listed : name ∈ ["testnet", "futurenet", "mainnet"] := not_not.mp own
          simp only [List.mem_cons, List.not_mem_nil, or_false] at listed
          rcases listed with rfl | rfl | rfl <;> rfl
  | contractId =>
      simp only [Key.valueIn, ofTexts]
      cases text .contractId <;> rfl
  | stage =>
      simp only [Key.valueIn, ofTexts]
      cases given : text .stage with
      | none => rfl
      | some name =>
          rw [given] at own
          have listed : name ∈ ["development", "staging", "production"] := not_not.mp own
          simp only [List.mem_cons, List.not_mem_nil, or_false] at listed
          rcases listed with rfl | rfl | rfl <;> rfl
  | debug =>
      simp only [Key.valueIn, ofTexts]
      cases text .debug <;> rfl
  | host =>
      simp only [Key.valueIn, ofTexts]
      cases text .host <;> rfl
  | port =>
      simp only [Key.valueIn, ofTexts]
      cases text .port <;> rfl
  | origins =>
      simp only [Key.valueIn, ofTexts]
      cases text .origins <;> rfl

/-! ### Texts from sources -/

theorem get?_textFields (text : String → Option String) (names : List String) (name : String) :
    Json.Fields.get? name (textFields text names) =
      if name ∈ names then (text name).map Json.ofString else none := by
  induction names with
  | nil => rfl
  | cons first rest ih =>
      rw [textFields] at ih ⊢
      by_cases same : first = name
      · subst same
        rw [if_pos List.mem_cons_self]
        cases given : text first with
        | some value =>
            simp only [List.filterMap_cons, given, Option.map_some, Json.Fields.get?, if_true]
        | none =>
            simp only [List.filterMap_cons, given, Option.map_none, ih, ite_self]
      · have inRest : name ∈ first :: rest ↔ name ∈ rest :=
          List.mem_cons.trans (or_iff_right (Ne.symm same))
        cases given : text first with
        | some value =>
            simp only [List.filterMap_cons, given, Option.map_some, Json.Fields.get?,
              JsonString.sound.injEq, if_neg same, ih, inRest]
        | none => simp only [List.filterMap_cons, given, Option.map_none, ih, inRest]

theorem get?_processFields (env : Environment) {name : String} (isKey : name ∈ keys) :
    Json.Fields.get? name (processFields env).reverse =
      (present (env.get? name)).map Json.ofString := by
  have reversed : (processFields env).reverse =
      textFields (fun name => present (env.get? name)) keys.reverse :=
    List.filterMap_reverse.symm
  rw [reversed, get?_textFields, if_pos (List.mem_reverse.mpr isKey)]

theorem get?_fileFields (file : File.Bindings) {name : String} (isKey : name ∈ keys) :
    Json.Fields.get? name (fileFields file) =
      (present (File.value? file name)).map Json.ofString := by
  rw [fileFields, get?_textFields, if_pos (List.mem_append_left _ isKey)]

theorem get?_rawFields (source : Source) (key : Key) :
    Json.Fields.get? key.name (rawFields source.env source.bindings) =
      (source.text key).map Json.ofString := by
  have isKey : key.name ∈ keys := by
    rw [keys_eq]
    exact List.mem_map.mpr ⟨key, key.mem_all, rfl⟩
  rw [rawFields, Json.Fields.get?_putAll, get?_processFields _ isKey, get?_fileFields _ isKey,
    Source.text, rawValue]
  cases present (source.env.get? key.name) <;> rfl

theorem load_eq (source : Source) :
    load source = ((kind.fields.read .data (rawFields source.env source.bindings)).map
      fun values => (ofRecord? (.record values)).getD { rpcUrl := "" }).mapError (⟨·⟩) := by
  rw [load, ofFields, RecordKind.ofData, RecordKind.shape, Shape.read]
  cases kind.fields.read .data (rawFields source.env source.bindings) <;> rfl

theorem load_of_sound {source : Source} (sound : ∀ key : Key, ¬ key.Fails (source.text key)) :
    load source = .ok (ofTexts source.text) := by
  have read : kind.fields.read .data (rawFields source.env source.bindings) =
      .ok (Key.all.map fun key => (.sound key.name, key.value (source.text key))) := by
    rw [Fields.read_eq_ok_iff, fields_toList, List.forall₂_map_left_iff,
      List.forall₂_map_right_iff, List.forall₂_same]
    intro key _
    rcases key.read_field (get?_rawFields source key) .data with ⟨_, own⟩ | ⟨fails, _⟩
    · exact ⟨by rw [key.field_name], own⟩
    · exact absurd fails (sound key)
  have held : Json.record (Key.all.map fun key => (.sound key.name, key.value (source.text key))) =
      (ofTexts source.text).toJson := by
    simp only [toJson_eq, value_ofTexts sound]
  rw [load_eq, read]
  simp only [Except.map, held, ofRecord?_toJson, Option.getD_some]
  rfl

theorem mem_issueKeys_iff (source : Source) (name : String) :
    name ∈ (issuesOf (kind.fields.read .data (rawFields source.env source.bindings))).map issueKey ↔
      ∃ key : Key, key.Fails (source.text key) ∧ key.name = name := by
  rw [Fields.issuesOf_read, fields_toList, List.flatMap_map, List.map_flatMap, List.mem_flatMap]
  constructor
  · rintro ⟨key, _, member⟩
    rcases key.read_field (get?_rawFields source key) .data with
      ⟨_, own⟩ | ⟨fails, kind, input, own⟩
    · rw [own] at member
      cases member
    · rw [own] at member
      exact ⟨key, fails, (List.mem_singleton.mp member).symm⟩
  · rintro ⟨key, fails, rfl⟩
    refine ⟨key, key.mem_all, ?_⟩
    rcases key.read_field (get?_rawFields source key) .data with
      ⟨sound, _⟩ | ⟨_, kind, input, own⟩
    · exact absurd fails sound
    · rw [own]
      exact List.mem_singleton.mpr rfl

theorem load_of_failing {source : Source} (fails : ∃ key : Key, key.Fails (source.text key)) :
    ∃ fault, load source = .error fault ∧
      ∀ name, name ∈ fault.keys ↔ ∃ key : Key, key.Fails (source.text key) ∧ key.name = name := by
  have named := mem_issueKeys_iff source
  cases read : kind.fields.read .data (rawFields source.env source.bindings) with
  | ok values =>
      obtain ⟨key, keyFails⟩ := fails
      rw [read] at named
      cases (named key.name).mpr ⟨key, keyFails, rfl⟩
  | error issues =>
      rw [read] at named
      refine ⟨⟨issues⟩, ?_, fun name => ?_⟩
      · rw [load_eq, read]
        rfl
      · rw [← named name]
        exact Text.mem_sortedStrings name (issues.map issueKey)

/-! ### Loading -/

/-- Loading gives the settings that the texts of the keys stand for, which meet every constraint, or
fails with the keys whose own texts fail, in ascending order. A failed load leaves one record, and
neither an application nor a server comes from it. -/
theorem load_names_failing_keys (source : Source) :
    ((∀ key : Key, ¬ key.Fails (source.text key)) ∧
      load source = .ok (ofTexts source.text) ∧ Valid (ofTexts source.text) ∧
      loadLog source = []) ∨
    ∃ fault, load source = .error fault ∧
      (∀ report, (fault.siteFault report).code = "CONFIGURATION_ERROR") ∧
      fault.keys ≠ [] ∧ fault.keys.Pairwise (· < ·) ∧
      (∀ name, name ∈ fault.keys ↔
        ∃ key : Key, key.Fails (source.text key) ∧ key.name = name) ∧
      loadLog source = [⟨"app.config", .error,
        "Invalid configuration for: " ++ ", ".intercalate fault.keys⟩] ∧
      (∀ last loads, let session : Session := { source, cached := none, last, loads }
        session.perform .createApp = (.error (.load fault), session)) ∧
      Service.launch source = .error fault := by
  by_cases fails : ∃ key : Key, key.Fails (source.text key)
  · obtain ⟨fault, failed, named⟩ := load_of_failing fails
    refine Or.inr ⟨fault, failed, fun _ => rfl, ?_, Text.pairwise_sortedStrings _, named, ?_, ?_, ?_⟩
    · obtain ⟨key, keyFails⟩ := fails
      exact List.ne_nil_of_mem ((named key.name).mpr ⟨key, keyFails, rfl⟩)
    · rw [loadLog, failed]
      rfl
    · intro last loads session
      simp only [session, Session.perform, Session.access, Session.loadNow, failed, Session.answer]
    · rw [Service.launch, failed]
      rfl
  · have sound : ∀ key : Key, ¬ key.Fails (source.text key) := not_exists.mp fails
    have loaded := load_of_sound sound
    refine Or.inl ⟨sound, loaded, valid_ofTexts sound, ?_⟩
    rw [loadLog, loaded]

end SavingsSite.Settings
