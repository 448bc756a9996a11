import SavingsSite.Proofs.Schema.Fields
import SavingsSite.Settings.Load

set_option autoImplicit false

/-! The keys of the settings one by one: the texts that each of them admits, and what a text that is
admitted, or the absence of one, makes of its value. -/

namespace SavingsSite.Settings

open Schema

inductive Key where
  | rpcUrl
  | network
  | contractId
  | stage
  | debug
  | host
  | port
  | origins
  deriving DecidableEq, Repr

/-- A scheme and at least one character after it, none of them white space. -/
def IsWebAddress (text : List Char) : Prop :=
  ∃ scheme ∈ ["http://", "https://"], ∃ rest, text = scheme.toList ++ rest ∧ rest ≠ [] ∧
    ∀ c ∈ rest, Text.isWhiteSpace c = false

def IsContractId (text : List Char) : Prop :=
  ∃ digits, text = 'C' :: digits ∧ digits.length = 55 ∧
    ∀ c ∈ digits, ('A' ≤ c ∧ c ≤ 'Z') ∨ ('2' ≤ c ∧ c ≤ '7')

namespace Key

def all : List Key := [rpcUrl, network, contractId, stage, debug, host, port, origins]

def name : Key → String
  | rpcUrl => "STELLAR_RPC_URL"
  | network => "STELLAR_NETWORK"
  | contractId => "CONTRACT_ID"
  | stage => "ENVIRONMENT"
  | debug => "DEBUG"
  | host => "API_HOST"
  | port => "API_PORT"
  | origins => "CORS_ORIGINS"

/-- The constraint of a key on a text that is given for it. -/
def Admits : Key → String → Prop
  | rpcUrl, text => IsWebAddress text.toList
  | network, text => text ∈ ["testnet", "futurenet", "mainnet"]
  | contractId, text => IsContractId text.toList
  | stage, text => text ∈ ["development", "staging", "production"]
  | debug, text => ∃ word ∈ noWords ++ yesWords, text.toList.map Char.toLower = word.toList
  | port, text => ∃ n, spelledInteger text.toList = .ok n ∧ 1 ≤ n ∧ n ≤ 65535
  | host, _ => True
  | origins, _ => True

/-- A key fails when it is required and has no text, or has one that it does not admit. -/
def Fails (key : Key) : Option String → Prop
  | none => key = rpcUrl
  | some text => ¬ key.Admits text

end Key

/-- The settings that the texts of the keys stand for. -/
def ofTexts (text : Key → Option String) : Settings where
  rpcUrl := (text .rpcUrl).getD ""
  network := ((text .network).bind Network.ofName?).getD .testnet
  contractId := text .contractId
  stage := ((text .stage).bind Stage.ofName?).getD .development
  debug := ((text .debug).bind spelledFlag).getD false
  host := (text .host).getD "0.0.0.0"
  port := ((text .port).bind fun spelling => (spelledInteger spelling.toList).toOption).getD 3001
  origins := (text .origins).getD "http://localhost:3000"

/-! ### Constraints -/

theorem isWebAddress_iff (text : List Char) : isWebAddress text = true ↔ IsWebAddress text := by
  unfold isWebAddress
  extract_lets afterScheme
  have scheme (scheme : List Char) : afterScheme scheme = true ↔
      ∃ rest, text = scheme ++ rest ∧ rest ≠ [] ∧ ∀ c ∈ rest, Text.isWhiteSpace c = false := by
    unfold afterScheme
    constructor
    · intro accepted
      split at accepted
      · next c rest begins behind =>
          obtain ⟨more, rfl⟩ := List.isPrefixOf_iff_prefix.mp begins
          rw [List.drop_left] at behind
          subst behind
          refine ⟨c :: rest, rfl, List.cons_ne_nil c rest, fun d member => ?_⟩
          exact Bool.not_eq_true' _ ▸ List.all_eq_true.mp accepted d member
      · cases accepted
    · rintro ⟨rest, rfl, nonempty, plain⟩
      rw [List.isPrefixOf_iff_prefix.mpr (List.prefix_append scheme rest), List.drop_left]
      cases rest with
      | nil => exact absurd rfl nonempty
      | cons c rest =>
          refine List.all_eq_true.mpr fun d member => ?_
          rw [plain d member]
          rfl
  simp only [Bool.or_eq_true, IsWebAddress, List.exists_mem_cons_iff, List.not_mem_nil, false_and,
    exists_false, or_false]
  exact or_congr (scheme "http://".toList) (scheme "https://".toList)

theorem isContractId_iff (text : List Char) : isContractId text = true ↔ IsContractId text := by
  unfold isContractId
  split
  · next digits =>
      simp only [Bool.and_eq_true, decide_eq_true_eq, List.all_eq_true, Bool.or_eq_true,
        IsContractId, List.cons.injEq, true_and, exists_eq_left']
  · next other =>
      constructor
      · intro impossible
        cases impossible
      · rintro ⟨digits, rfl, _⟩
        exact absurd rfl (other digits)

theorem spelledFlag_isSome_iff (text : String) :
    (spelledFlag text).isSome = true ↔ Key.debug.Admits text := by
  have same (word : String) : String.ofList (text.toList.map Char.toLower) = word ↔
      text.toList.map Char.toLower = word.toList := by
    rw [← String.toList_inj, String.toList_ofList]
  have found (words : List String) :
      words.contains (String.ofList (text.toList.map Char.toLower)) = true ↔
        ∃ word ∈ words, text.toList.map Char.toLower = word.toList := by
    simp only [List.contains_iff_mem, ← same, exists_eq_right']
  simp only [spelledFlag, Key.Admits, List.mem_append, or_and_right, exists_or, ← found]
  split
  · next no => simp only [no, Option.isSome_some, true_or]
  · next noNo =>
      split
      · next yes => simp only [yes, Option.isSome_some, or_true]
      · next noYes => simp only [noNo, noYes, Option.isSome_none, Bool.false_eq_true, or_self]

/-! ### Reading one key -/

namespace Key

def field : Key → Field
  | rpcUrl => ⟨rpcUrl.name, .text (.matching .webAddress), none⟩
  | network => ⟨network.name, .oneOf ["testnet", "futurenet", "mainnet"],
      some (Json.ofString "testnet")⟩
  | contractId => ⟨contractId.name, .nullable (.text (.matching .contract)), some .null⟩
  | stage => ⟨stage.name, .oneOf ["development", "staging", "production"],
      some (Json.ofString "development")⟩
  | debug => ⟨debug.name, .flag, some (.flag false)⟩
  | host => ⟨host.name, .text .any, some (Json.ofString "0.0.0.0")⟩
  | port => ⟨port.name, .integer (some 1) (some 65535), some (.whole 3001)⟩
  | origins => ⟨origins.name, .text .any, some (Json.ofString "http://localhost:3000")⟩

theorem field_name (key : Key) : key.field.name = key.name := by
  cases key <;> rfl

def valueOf : Key → String → Json
  | debug, text => .flag ((spelledFlag text).getD false)
  | port, text => .whole ((spelledInteger text.toList).toOption.getD 3001)
  | _, text => Json.ofString text

theorem read_text (key : Key) (text : String) (origin : Origin) :
    (key.Admits text ∧
      key.field.shape.read origin (Json.ofString text) = .ok (key.valueOf text)) ∨
    (¬ key.Admits text ∧ ∃ kind,
      key.field.shape.read origin (Json.ofString text) = oneIssue kind (Json.ofString text)) := by
  have oneOf (options : List String) :
      (text ∈ options ∧
        (Shape.oneOf options).read origin (Json.ofString text) = .ok (Json.ofString text)) ∨
      (text ∉ options ∧ ∃ kind,
        (Shape.oneOf options).read origin (Json.ofString text) =
          oneIssue kind (Json.ofString text)) := by
    by_cases listed : text ∈ options
    · refine Or.inl ⟨listed, ?_⟩
      simp only [Json.ofString, Shape.read, List.contains_iff_mem.mpr listed, if_true]
    · have unlisted := Bool.eq_false_iff.mpr (mt List.contains_iff_mem.mp listed)
      refine Or.inr ⟨listed, .notAnOption options, ?_⟩
      simp only [Json.ofString, Shape.read, unlisted, Bool.false_eq_true, if_false]
  have matching (pattern : TextPattern) :
      (pattern.accepts text.toList = true ∧
        (Shape.text (.matching pattern)).read origin (Json.ofString text) =
          .ok (Json.ofString text)) ∨
      (¬ pattern.accepts text.toList = true ∧ ∃ kind,
        (Shape.text (.matching pattern)).read origin (Json.ofString text) =
          oneIssue kind (Json.ofString text)) := by
    by_cases accepted : pattern.accepts text.toList = true
    · refine Or.inl ⟨accepted, ?_⟩
      simp only [Json.ofString, Shape.read, TextRule.issue?, accepted, if_true]
    · refine Or.inr ⟨accepted, .patternMismatch pattern, ?_⟩
      simp only [Json.ofString, Shape.read, TextRule.issue?, if_neg accepted]
  have any : (Shape.text .any).read origin (Json.ofString text) = .ok (Json.ofString text) := by
    simp only [Json.ofString, Shape.read, TextRule.issue?]
  cases key with
  | rpcUrl =>
      rw [Admits, ← isWebAddress_iff]
      exact matching .webAddress
  | network => exact oneOf ["testnet", "futurenet", "mainnet"]
  | contractId =>
      have inner := matching .contract
      rw [Admits, ← isContractId_iff]
      simp only [field, Json.ofString, Shape.read] at inner ⊢
      exact inner
  | stage => exact oneOf ["development", "staging", "production"]
  | debug =>
      rw [← spelledFlag_isSome_iff]
      simp only [field, Json.ofString, Shape.read, flagOf, valueOf]
      cases spelledFlag text with
      | some value => exact Or.inl ⟨rfl, rfl⟩
      | none => exact Or.inr ⟨Bool.false_ne_true, .flagText, rfl⟩
  | host => exact Or.inl ⟨trivial, any⟩
  | port =>
      simp only [Admits, field, Json.ofString, Shape.read, integerOf, valueOf]
      cases spelledInteger text.toList with
      | error fault =>
          refine Or.inr ⟨by rintro ⟨_, ⟨⟩, _⟩, ?_⟩
          cases fault <;> exact ⟨_, rfl⟩
      | ok n =>
          by_cases above : 65535 < n
          · refine Or.inr ⟨by rintro ⟨_, ⟨⟩, _, bound⟩; omega, .above 65535, ?_⟩
            simp only [boundIssue?, if_pos above]
          · by_cases below : n < 1
            · refine Or.inr ⟨by rintro ⟨_, ⟨⟩, bound, _⟩; omega, .below 1, ?_⟩
              simp only [boundIssue?, if_neg above, if_pos below]
            · refine Or.inl ⟨⟨n, rfl, by omega, by omega⟩, ?_⟩
              simp only [boundIssue?, if_neg above, if_neg below]
              rfl
  | origins => exact Or.inl ⟨trivial, any⟩

/-- The value of a key, given by a text or by default. -/
def value (key : Key) : Option String → Json
  | some text => key.valueOf text
  | none => key.field.default.getD .null

theorem read_field (key : Key) {raw : Option String} {given : Json.Fields}
    (found : Json.Fields.get? key.name given = raw.map Json.ofString) (origin : Origin) :
    (¬ key.Fails raw ∧ key.field.read origin given = .ok (key.value raw)) ∨
    (key.Fails raw ∧ ∃ kind input,
      key.field.read origin given = .error [⟨kind, [.field key.name], input⟩]) := by
  have named := key.field_name
  cases raw with
  | none =>
      cases key with
      | rpcUrl =>
          refine Or.inr ⟨rfl, .missing, .record given, ?_⟩
          simp only [Field.read, named, found, Option.map_none]
          rfl
      | _ =>
          refine Or.inl ⟨by simp [Fails], ?_⟩
          simp only [Field.read, named, found, Option.map_none]
          rfl
  | some text =>
      simp only [Field.read, named, found, Option.map_some]
      rcases key.read_text text origin with ⟨admitted, read⟩ | ⟨refused, kind, read⟩
      · rw [read]
        exact Or.inl ⟨fun fails => fails admitted, rfl⟩
      · rw [read]
        exact Or.inr ⟨refused, kind, Json.ofString text, rfl⟩

end Key

def Key.valueIn (s : Settings) : Key → Json
  | rpcUrl => Json.ofString s.rpcUrl
  | network => Json.ofString s.network.name
  | contractId => Json.ofOption Json.ofString s.contractId
  | stage => Json.ofString s.stage.name
  | debug => .flag s.debug
  | host => Json.ofString s.host
  | port => .whole s.port
  | origins => Json.ofString s.origins

theorem toJson_eq (s : Settings) :
    s.toJson = .record (Key.all.map fun key => (.sound key.name, key.valueIn s)) := rfl

theorem ofRecord?_toJson (s : Settings) : ofRecord? s.toJson = some s := by
  cases s with
  | mk rpcUrl network contractId stage debug host port origins =>
      cases network <;> cases contractId <;> cases stage <;> rfl

theorem fields_toList : kind.fields.toList = Key.all.map Key.field := rfl

theorem keys_eq : keys = Key.all.map Key.name := rfl

theorem Key.mem_all (key : Key) : key ∈ Key.all := by
  cases key <;> decide

theorem Key.name_injective {a b : Key} (same : a.name = b.name) : a = b := by
  have distinct : ∀ a ∈ Key.all, ∀ b ∈ Key.all, a.name = b.name → a = b := by decide
  exact distinct a a.mem_all b b.mem_all same

end SavingsSite.Settings
