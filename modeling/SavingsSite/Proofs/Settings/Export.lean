import SavingsSite.Proofs.Schema.Normal
import SavingsSite.Proofs.Schema.Reading
import SavingsSite.Proofs.Settings.Merging
import SavingsSite.Settings.Given

set_option autoImplicit false

/-! Settings out and in again. Valid settings come back from their own values in any process, and
from the texts of these values in a process that has them, unless an empty text gives way to a
default. -/

namespace SavingsSite.Settings

open Schema

/-! ### By values -/

def namedValues (s : Settings) : Json.Fields :=
  Key.all.map fun key => (.sound key.name, key.valueIn s)

theorem namedValues_names (s : Settings) :
    s.namedValues.map Prod.fst = keys.map JsonString.sound := rfl

variable {s : Settings} {given : Json.Fields}

theorem names_of_perm (order : given.Perm s.namedValues) :
    (given.map Prod.fst).Perm (keys.map JsonString.sound) :=
  namedValues_names s ▸ order.map Prod.fst

theorem get?_of_perm (order : given.Perm s.namedValues) (key : Key) :
    Json.Fields.get? key.name given = some (key.valueIn s) := by
  have distinct : (given.map Prod.fst).Nodup := (names_of_perm order).nodup_iff.mpr (by decide)
  exact get?_of_mem distinct (order.mem_iff.mpr (List.mem_map.mpr ⟨key, key.mem_all, rfl⟩))

theorem absent_of_perm (order : given.Perm s.namedValues) {name : String} (other : name ∉ keys) :
    Json.Fields.get? name given = none ∧ choice? given name = none := by
  have unheld : Json.Fields.get? name given = none := by
    refine get?_eq_none fun held => ?_
    obtain ⟨key, isKey, same⟩ := List.mem_map.mp ((names_of_perm order).mem_iff.mp held)
    rw [JsonString.sound.inj same] at isKey
    exact other isKey
  exact ⟨unheld, by rw [choice?, unheld]⟩

theorem Key.sound_shape (key : Key) : key.field.shape.Sound := by
  cases key <;> simp only [Key.field, Shape.Sound]

theorem Key.normal_valueIn (valid : Valid s) (key : Key) :
    key.field.shape.Normal (key.valueIn s) := by
  cases key with
  | rpcUrl =>
      refine .text ?_
      rw [TextRule.issue?, TextPattern.accepts, (isWebAddress_iff _).mpr valid.rpcUrl, if_pos rfl]
  | network => exact .oneOf valid.network
  | contractId =>
      rw [Key.valueIn]
      cases given : s.contractId with
      | none => exact .absent _
      | some id =>
          refine .present (.text ?_)
          rw [TextRule.issue?, TextPattern.accepts,
            (isContractId_iff _).mpr (valid.contractId id given), if_pos rfl]
  | stage => exact .oneOf valid.stage
  | debug => exact .flag _
  | host => exact .text rfl
  | port =>
      refine .integer ?_
      obtain ⟨least, greatest⟩ := valid.port
      simp only [boundIssue?, if_neg (Int.not_lt.mpr greatest), if_neg (Int.not_lt.mpr least)]
  | origins => exact .text rfl

theorem ofFields_of_values (valid : Valid s)
    (found : ∀ key : Key, Json.Fields.get? key.name given = some (key.valueIn s)) :
    ofFields given = .ok s := by
  have read : kind.fields.read .data given = .ok s.namedValues := by
    rw [Fields.read_eq_ok_iff, fields_toList, namedValues, List.forall₂_map_left_iff,
      List.forall₂_map_right_iff, List.forall₂_same]
    intro key _member
    have own := Shape.read_normal .data key.field.shape key.sound_shape (key.normal_valueIn valid)
    refine ⟨by rw [key.field_name], ?_⟩
    simp only [Field.read, key.field_name, found, own]
    rfl
  have held : Json.record s.namedValues = s.toJson := (toJson_eq s).symm
  rw [ofFields, RecordKind.ofData, RecordKind.shape, Shape.read, read]
  simp only [Except.map, held, ofRecord?_toJson, Option.getD_some]

theorem givenFields_of_perm (order : given.Perm s.namedValues) (env : Environment) :
    givenFields [] given env = s.namedValues := by
  rw [givenFields, keys_eq, List.filterMap_map, namedValues, ← List.filterMap_eq_map]
  refine List.filterMap_congr fun key _member => ?_
  simp only [Function.comp_apply, get?_of_perm order key]
  rfl

theorem ofGiven_of_perm (valid : Valid s) (order : given.Perm s.namedValues) (env : Environment) :
    ofGiven given env = .ok s := by
  have noChoice (name : String) (other : name ∉ keys) : choice? given name = none :=
    (absent_of_perm order other).2
  have names : checkNames given = .ok () := by
    rw [checkNames, (absent_of_perm order (by decide : fileName ∉ keys)).1,
      (absent_of_perm order (by decide : receiverName ∉ keys)).1]
    rfl
  have depth : checkDepth given = .ok () := by
    rw [checkDepth, noChoice "_env_nested_max_split" (by decide)]
  have length : checkLength given = .ok () := by
    rw [checkLength, noChoice "_env_prefix" (by decide)]
  have lead : checkLead given = .ok () := by
    rw [checkLead, noChoice "_env_prefix" (by decide)]
  have folders : checkFolders given = .ok () := by
    rw [checkFolders, noChoice "_secrets_dir" (by decide)]
  have words : commandFields given = .ok [] := by
    rw [commandFields, noChoice "_cli_parse_args" (by decide)]
  rw [ofGiven, names, depth, length, words, lead, folders]
  change (ofFields (givenFields [] given env)).mapError _ = _
  rw [givenFields_of_perm order, ofFields_of_values valid (get?_of_perm (.refl _))]
  rfl

/-! ### By texts -/

def flagText (answer : Bool) : String := if answer then "true" else "false"

/-- The text form of every value. The contract has none when it is absent. -/
def spelled (s : Settings) : Key → Option String
  | .rpcUrl => some s.rpcUrl
  | .network => some s.network.name
  | .contractId => s.contractId
  | .stage => some s.stage.name
  | .debug => some (flagText s.debug)
  | .host => some s.host
  | .port => some (toString s.port)
  | .origins => some s.origins

/-- A process that has the text form of every value, and nothing else. -/
def exported (s : Settings) : Environment :=
  Key.all.filterMap fun key => (s.spelled key).map (key.name, ·)

theorem get?_exported (s : Settings) (key : Key) :
    Environment.get? key.name s.exported = s.spelled key := by
  rw [exported, get?_named, if_pos key.mem_all]

theorem present_eq_none_or (text : Option String) : present text = none ∨ present text = text := by
  unfold present
  split
  · exact Or.inl rfl
  · exact Or.inr rfl

theorem present_of_ne {text : Option String} (filled : text ≠ some "") : present text = text := by
  unfold present
  split
  · exact absurd rfl filled
  · rfl

theorem spelledInteger_toString {n : Int} (least : 1 ≤ n) (greatest : n ≤ 65535) :
    spelledInteger (toString n).toList = .ok n := by
  obtain ⟨m, rfl⟩ := Int.eq_ofNat_of_zero_le (Int.le_trans (by decide) least)
  have short : (Nat.toDigits 10 m).length ≤ Json.digitLimit := by
    refine Nat.le_trans ?_ (by decide : 5 ≤ Json.digitLimit)
    rw [Nat.length_toDigits_le_iff (by decide) (by decide)]
    omega
  have digits : (toString (m : Int)).toList = Nat.toDigits 10 m := Text.toList_toString_ofNat m
  rw [digits, spelledInteger_decimal m short]

theorem spelledFlag_flagText (answer : Bool) : spelledFlag (flagText answer) = some answer := by
  cases answer <;> decide

theorem Key.admits_spelled (valid : Valid s) (key : Key) {text : String}
    (given : s.spelled key = some text) : key.Admits text := by
  cases key with
  | contractId => exact valid.contractId text given
  | rpcUrl =>
      cases given
      exact valid.rpcUrl
  | network =>
      cases given
      exact valid.network
  | stage =>
      cases given
      exact valid.stage
  | debug =>
      cases given
      rw [← spelledFlag_isSome_iff, spelledFlag_flagText]
      rfl
  | port =>
      cases given
      obtain ⟨least, greatest⟩ := valid.port
      exact ⟨s.port, spelledInteger_toString least greatest, least, greatest⟩
  | host => trivial
  | origins => trivial

theorem Key.ne_empty_of_admits {key : Key} {text : String} (admitted : key.Admits text)
    (noHost : key ≠ host) (noOrigins : key ≠ origins) : text ≠ "" := by
  rintro rfl
  cases key with
  | rpcUrl => exact absurd ((isWebAddress_iff _).mpr admitted) (by decide)
  | network =>
      exact absurd (show "" ∈ ["testnet", "futurenet", "mainnet"] from admitted) (by decide)
  | contractId => exact absurd ((isContractId_iff _).mpr admitted) (by decide)
  | stage =>
      exact absurd (show "" ∈ ["development", "staging", "production"] from admitted) (by decide)
  | debug => exact absurd ((spelledFlag_isSome_iff _).mpr admitted) (by decide)
  | host => exact noHost rfl
  | port =>
      obtain ⟨n, read, _⟩ := admitted
      cases read
  | origins => exact noOrigins rfl

theorem present_spelled (valid : Valid s) {key : Key} (noHost : key ≠ .host)
    (noOrigins : key ≠ .origins) : present (s.spelled key) = s.spelled key :=
  present_of_ne fun empty =>
    Key.ne_empty_of_admits (key.admits_spelled valid empty) noHost noOrigins rfl

theorem not_fails_spelled (valid : Valid s) (key : Key) :
    ¬ key.Fails (present (s.spelled key)) := by
  cases given : present (s.spelled key) with
  | none =>
      intro required
      have isAddress : key = .rpcUrl := required
      subst isAddress
      rw [present_spelled valid (by decide) (by decide)] at given
      cases given
  | some text =>
      rcases present_eq_none_or (s.spelled key) with absent | filled
      · rw [given] at absent
        cases absent
      · exact not_not.mpr (key.admits_spelled valid (filled ▸ given))

/-- The settings with the default in place of an empty text. -/
def filled (s : Settings) : Settings :=
  { s with
    host := (present (some s.host)).getD "0.0.0.0"
    origins := (present (some s.origins)).getD "http://localhost:3000" }

theorem ofTexts_spelled (valid : Valid s) :
    ofTexts (fun key => present (s.spelled key)) = s.filled := by
  have flag := spelledFlag_flagText s.debug
  have number := spelledInteger_toString valid.port.1 valid.port.2
  have network : Network.ofName? s.network.name = some s.network := by cases s.network <;> decide
  have stage : Stage.ofName? s.stage.name = some s.stage := by cases s.stage <;> decide
  simp (disch := decide) only [ofTexts, present_spelled valid]
  simp only [spelled, Option.bind_some, Option.getD_some, network, stage, flag, number,
    Except.toOption, filled]

theorem load_of_spelled (valid : Valid s) {env : Environment}
    (same : ∀ key : Key, env.get? key.name = s.spelled key) : load ⟨env, none⟩ = .ok s.filled := by
  have text (key : Key) : (⟨env, none⟩ : Source).text key = present (s.spelled key) := by
    rw [Source.text, rawValue, same key]
    cases present (s.spelled key) <;> rfl
  have texts : (⟨env, none⟩ : Source).text = fun key => present (s.spelled key) := funext text
  rw [load_of_sound fun key => by rw [text key]; exact not_fails_spelled valid key, texts,
    ofTexts_spelled valid]

theorem filled_eq_self_iff (s : Settings) : s.filled = s ↔ s.host ≠ "" ∧ s.origins ≠ "" := by
  constructor
  · intro same
    constructor
    · intro empty
      have host : (present (some s.host)).getD "0.0.0.0" = s.host := congrArg Settings.host same
      rw [empty] at host
      exact absurd host (by decide)
    · intro empty
      have origins : (present (some s.origins)).getD "http://localhost:3000" = s.origins :=
        congrArg Settings.origins same
      rw [empty] at origins
      exact absurd origins (by decide)
  · rintro ⟨host, origins⟩
    rw [filled, present_of_ne (mt Option.some.inj host), present_of_ne (mt Option.some.inj origins)]
    rfl

/-! ### Both -/

/-- Valid settings come back from their own values in any order, whatever the variables of the
process. They come back from a process that has their texts, whatever else it has, exactly when the
host and the origins are not empty. -/
theorem reload_of_valid (s : Settings) (valid : Valid s) :
    (∀ given : Json.Fields, given.Perm s.namedValues →
      ∀ env, ofGiven given env = .ok s) ∧
    (load ⟨s.exported, none⟩ = .ok s ↔ s.host ≠ "" ∧ s.origins ≠ "") ∧
    ∀ env : Environment, (∀ key : Key, env.get? key.name = s.exported.get? key.name) →
      load ⟨env, none⟩ = load ⟨s.exported, none⟩ := by
  have exported := load_of_spelled valid (get?_exported s)
  refine ⟨fun given order env => ofGiven_of_perm valid order env, ?_, fun env same => ?_⟩
  · rw [exported, Except.ok.injEq, filled_eq_self_iff]
  · rw [exported]
    exact load_of_spelled valid fun key => (same key).trans (get?_exported s key)

def farSettings : Settings where
  rpcUrl := "https://rpc.example"
  network := .mainnet
  contractId := some "CAAAAAAAAAAAAAAAAAAAAAAAAAAAAAAAAAAAAAAAAAAAAAAAAAAAAAAA"
  stage := .production
  debug := true
  host := "::1"
  port := 8080
  origins := "https://a.example, https://b.example"

theorem valid_farSettings : Valid farSettings where
  rpcUrl := (isWebAddress_iff _).mp (by decide)
  network := by decide
  contractId := by
    rintro id ⟨⟩
    exact (isContractId_iff _).mp (by decide)
  stage := by decide
  port := by decide

theorem reload_of_valid_far :
    ofGiven farSettings.namedValues.reverse [("API_PORT", "x"), ("DEBUG", ""), ("API_HOST", "::")] =
        .ok farSettings ∧
      farSettings.exported = [("STELLAR_RPC_URL", "https://rpc.example"),
        ("STELLAR_NETWORK", "mainnet"),
        ("CONTRACT_ID", "CAAAAAAAAAAAAAAAAAAAAAAAAAAAAAAAAAAAAAAAAAAAAAAAAAAAAAAA"),
        ("ENVIRONMENT", "production"), ("DEBUG", "true"), ("API_HOST", "::1"),
        ("API_PORT", "8080"), ("CORS_ORIGINS", "https://a.example, https://b.example")] ∧
      load ⟨farSettings.exported, none⟩ = .ok farSettings ∧
      load ⟨("PATH", "/") :: farSettings.exported.reverse, none⟩ = .ok farSettings := by
  obtain ⟨byValues, alone, unread⟩ := reload_of_valid farSettings valid_farSettings
  have loaded := alone.mpr (by decide)
  have agree : ∀ key ∈ Key.all,
      Environment.get? key.name (("PATH", "/") :: farSettings.exported.reverse) =
        Environment.get? key.name farSettings.exported := by
    decide
  exact ⟨byValues _ (List.reverse_perm _) _, by decide, loaded,
    (unread _ fun key => agree key key.mem_all).trans loaded⟩

end SavingsSite.Settings
