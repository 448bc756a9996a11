import SavingsSite.Proofs.Settings.Loading

set_option autoImplicit false

/-! The process and the settings file as one source. A load comes to what it would come to without
the file, in a process that has just the text that counts for each key: the sources are merged key
by key, and other names matter only as far as values of the file refer to them. -/

namespace SavingsSite.Settings

open Schema

/-! ### References -/

namespace File

/-- A reference begins with this character and the next. -/
def Opens (c : Char) (rest : List Char) : Prop := ∃ inner, c = '$' ∧ rest = '\x7b' :: inner

theorem referenceNames_rest (c : Char) (rest : List Char) :
    referenceNames rest ⊆ referenceNames (c :: rest) := by
  by_cases opens : Opens c rest
  · obtain ⟨inner, rfl, rfl⟩ := opens
    cases read : readReference inner with
    | none =>
        rw [referenceNames, read]
        exact List.Subset.refl _
    | some found =>
        rw [referenceNames, read]
        exact List.subset_cons_self _ _
  · have plain : referenceNames (c :: rest) = referenceNames rest := by
      rw [referenceNames]
      intro inner isDollar isBrace
      exact opens ⟨inner, isDollar, isBrace⟩
    rw [plain]
    exact List.Subset.refl _

theorem referenceNames_suffix {part input : List Char} (behind : part <:+ input) :
    referenceNames part ⊆ referenceNames input := by
  induction input with
  | nil =>
      rw [List.suffix_nil.mp behind]
      exact List.Subset.refl _
  | cons c rest ih =>
      rcases List.suffix_cons_iff.mp behind with rfl | later
      · exact List.Subset.refl _
      · exact List.Subset.trans (ih later) (referenceNames_rest c rest)

theorem readReference_suffix {input name after : List Char} {default : Option (List Char)}
    (read : readReference input = some (name, default, after)) : after <:+ input := by
  unfold readReference at read
  dsimp only at read
  split at read
  · next rest found =>
      cases read
      exact (List.suffix_cons _ _).trans (found ▸ List.drop_suffix _ input)
  · next more found =>
      have inside : more <:+ input :=
        ((List.suffix_cons _ _).trans (List.suffix_cons _ _)).trans
          (found ▸ List.drop_suffix _ input)
      split at read
      · next rest closed =>
          cases read
          exact ((List.suffix_cons _ _).trans (closed ▸ List.drop_suffix _ more)).trans inside
      · cases read
  · cases read

variable {env other : Environment}

theorem resolve_congr (earlier : Bindings) {name : List Char} (default : Option (List Char))
    (same : env.get? (String.ofList name) = other.get? (String.ofList name)) :
    resolve env earlier name default = resolve other earlier name default := by
  simp only [resolve, same]

theorem expand_congr (earlier : Bindings) (fuel : Nat) {input : List Char}
    (same : ∀ name ∈ referenceNames input, env.get? name = other.get? name) :
    expand env earlier fuel input = expand other earlier fuel input := by
  induction fuel generalizing input with
  | zero => rfl
  | succ fuel ih =>
      cases input with
      | nil => rfl
      | cons c rest =>
          have later : expand env earlier fuel rest = expand other earlier fuel rest :=
            ih fun name member => same name (referenceNames_rest c rest member)
          by_cases opens : Opens c rest
          · obtain ⟨inner, rfl, rfl⟩ := opens
            simp only [expand]
            cases read : readReference inner with
            | none => simp only [later]
            | some found =>
                obtain ⟨name, default, after⟩ := found
                have own : String.ofList name ∈ referenceNames ('$' :: '\x7b' :: inner) := by
                  simp only [referenceNames, read]
                  exact List.mem_cons_self
                have behind : after <:+ '$' :: '\x7b' :: inner :=
                  ((readReference_suffix read).trans (List.suffix_cons _ _)).trans
                    (List.suffix_cons _ _)
                simp only [resolve_congr earlier default (same _ own),
                  ih fun name member => same name (referenceNames_suffix behind member)]
          · have plain (env : Environment) : expand env earlier (fuel + 1) (c :: rest) =
                c :: expand env earlier fuel rest := by
              rw [expand]
              intro inner isDollar isBrace
              exact opens ⟨inner, isDollar, isBrace⟩
            rw [plain, plain, later]

theorem bind_congr (assigned : List Assignment) (earlier : Bindings)
    (same : ∀ a ∈ assigned, ∀ name ∈ referenceNames (a.value.getD []),
      env.get? name = other.get? name) :
    bind env earlier assigned = bind other earlier assigned := by
  induction assigned generalizing earlier with
  | nil => rfl
  | cons a rest ih =>
      rw [List.forall_mem_cons] at same
      have value : a.value.map (fun text => String.ofList (expand env earlier text.length text)) =
          a.value.map fun text => String.ofList (expand other earlier text.length text) := by
        cases given : a.value with
        | none => rfl
        | some text =>
            have own := same.1
            rw [given, Option.getD_some] at own
            rw [Option.map_some, Option.map_some, expand_congr earlier text.length own]
      simp only [bind, value]
      exact ih _ same.2

theorem values_congr (file : String)
    (same : ∀ name ∈ references file, env.get? name = other.get? name) :
    values env file = values other file :=
  bind_congr (assignments file) [] fun a member name named =>
    same name (List.mem_flatMap.mpr ⟨a, member, named⟩)

end File

/-! ### One source instead of two -/

/-- The process that has the text that counts for each key, and no other variable. -/
def Source.merged (source : Source) : Environment :=
  Key.all.filterMap fun key => (source.text key).map (key.name, ·)

def Source.references (source : Source) : List String :=
  match source.file with
  | some text => File.references text
  | none => []

theorem get?_named (text : Key → Option String) (listed : List Key) (key : Key) :
    Environment.get? key.name (listed.filterMap fun other => (text other).map (other.name, ·)) =
      if key ∈ listed then text key else none := by
  induction listed with
  | nil => rfl
  | cons first rest ih =>
      by_cases same : first = key
      · subst same
        rw [if_pos List.mem_cons_self]
        cases given : text first with
        | some value =>
            simp only [List.filterMap_cons, given, Option.map_some, Environment.get?, if_true]
        | none => simp only [List.filterMap_cons, given, Option.map_none, ih, ite_self]
      · have otherName : first.name ≠ key.name := mt (Key.name_injective ·) same
        have inRest : key ∈ first :: rest ↔ key ∈ rest :=
          List.mem_cons.trans (or_iff_right (Ne.symm same))
        cases given : text first with
        | some value =>
            simp only [List.filterMap_cons, given, Option.map_some, Environment.get?,
              if_neg otherName, ih, inRest]
        | none => simp only [List.filterMap_cons, given, Option.map_none, ih, inRest]

theorem present_present (text : Option String) : present (present text) = present text := by
  by_cases empty : text = some ""
  · rw [empty]
    rfl
  · have filled : present text = text := by
      unfold present
      split
      · exact absurd rfl empty
      · rfl
    rw [filled, filled]

theorem present_text (source : Source) (key : Key) :
    present (source.text key) = source.text key := by
  rw [Source.text, rawValue]
  split
  · next value given => rw [← given, present_present]
  · exact present_present _

theorem get?_merged (source : Source) (key : Key) :
    Environment.get? key.name source.merged = source.text key := by
  rw [Source.merged, get?_named, if_pos key.mem_all]

theorem text_merged (source : Source) (key : Key) :
    (⟨source.merged, none⟩ : Source).text key = source.text key := by
  rw [Source.text, rawValue, get?_merged, present_text]
  cases source.text key <;> rfl

/-! ### Outcomes -/

/-- Two sources come to the same: the same settings, or reports that name the same keys and say the
same about them, and show records with the same texts of all keys where one is missing. -/
inductive SameOutcome (a b : Source) : Prop
  | loaded (s : Settings) (first : load a = .ok s) (second : load b = .ok s)
  | failed (fault other : LoadFault) (first : load a = .error fault)
      (second : load b = .error other) (named : fault.keys = other.keys)
      (issues : List.Forall₂ (Issue.Alike keys) fault.issues other.issues)

theorem failingKeys_of_alike {names : List String} {issues others : List Issue}
    (alike : List.Forall₂ (Issue.Alike names) issues others) :
    failingKeys issues = failingKeys others := by
  have named : issues.map issueKey = others.map issueKey := by
    induction alike with
    | nil => rfl
    | cons first _ ih =>
        rw [List.map_cons, List.map_cons, ih, issueKey, issueKey, first.path]
  rw [failingKeys, failingKeys, named]

theorem sameOutcome_of_text {a b : Source} (same : ∀ key : Key, a.text key = b.text key) :
    SameOutcome a b := by
  have found : ∀ name ∈ keys,
      Json.Fields.get? name (rawFields a.env a.bindings) =
        Json.Fields.get? name (rawFields b.env b.bindings) := by
    rw [keys_eq, List.forall_mem_map]
    intro key _member
    rw [get?_rawFields, get?_rawFields, same key]
  have named : ∀ field ∈ kind.fields.toList, field.name ∈ keys := by
    rw [fields_toList, List.forall_mem_map, keys_eq]
    intro key member
    rw [key.field_name]
    exact List.mem_map_of_mem member
  have loadsAs : ReadAlike keys (kind.fields.read .data (rawFields a.env a.bindings))
      (kind.fields.read .data (rawFields b.env b.bindings)) :=
    Fields.read_alike found kind.fields named
  have first := load_eq a
  have second := load_eq b
  generalize kind.fields.read .data (rawFields a.env a.bindings) = reading at loadsAs first
  generalize kind.fields.read .data (rawFields b.env b.bindings) = other at loadsAs second
  cases loadsAs with
  | ok values => exact .loaded _ first second
  | error alike => exact .failed _ _ first second (failingKeys_of_alike alike) alike

/-- A load comes to what it comes to without the file, in a process that has just the text that
counts for each key. An empty variable does not hide the value of the file, and no variable matters
that neither is a key nor is referred to by the file. -/
theorem load_merges_keys (source : Source) :
    SameOutcome source ⟨source.merged, none⟩ ∧
    (∀ key : Key, source.env.get? key.name = some "" →
      source.text key = present (File.value? source.bindings key.name)) ∧
    (∀ other : Source, (∀ key : Key, other.text key = source.text key) →
      SameOutcome other source) ∧
    ∀ env : Environment, (∀ name, name ∈ keys ∨ name ∈ source.references →
      env.get? name = source.env.get? name) → SameOutcome ⟨env, source.file⟩ source := by
  refine ⟨sameOutcome_of_text fun key => (text_merged source key).symm, ?_,
    fun other same => sameOutcome_of_text same, ?_⟩
  · intro key empty
    rw [Source.text, rawValue, empty]
    rfl
  · intro env same
    have bindings : Source.bindings ⟨env, source.file⟩ = source.bindings := by
      have referred : ∀ name ∈ source.references, env.get? name = source.env.get? name :=
        fun name named => same name (Or.inr named)
      rw [Source.references] at referred
      rw [Source.bindings, Source.bindings]
      cases written : source.file with
      | none => rfl
      | some text =>
          rw [written] at referred
          exact File.values_congr text referred
    refine sameOutcome_of_text fun key => ?_
    have isKey : key.name ∈ keys := by
      rw [keys_eq]
      exact List.mem_map.mpr ⟨key, key.mem_all, rfl⟩
    rw [Source.text, Source.text, bindings, rawValue, rawValue, same key.name (Or.inl isKey)]

theorem load_merges_keys_masked :
    let source : Source := ⟨[("STELLAR_RPC_URL", ""), ("API_PORT", "8080"), ("api_port", "x"),
      ("NODE", "rpc")], some "STELLAR_RPC_URL=https://$\x7bNODE\x7d\nAPI_PORT=1\nOTHER=y\nDEBUG"⟩
    let env : Environment :=
      [("NODE", "rpc"), ("API_PORT", "8080"), ("STELLAR_RPC_URL", ""), ("PATH", "/")]
    source.merged = [("STELLAR_RPC_URL", "https://rpc"), ("API_PORT", "8080")] ∧
      SameOutcome source ⟨source.merged, none⟩ ∧
      source.text .rpcUrl = present (File.value? source.bindings "STELLAR_RPC_URL") ∧
      SameOutcome ⟨source.merged, none⟩ source ∧ SameOutcome ⟨env, source.file⟩ source := by
  intro source env
  obtain ⟨alone, masked, other, unread⟩ := load_merges_keys source
  have agree : ∀ name ∈ keys ++ source.references, env.get? name = source.env.get? name := by
    decide +kernel
  refine ⟨by decide +kernel, alone, masked .rpcUrl rfl, other _ (text_merged source),
    unread env fun name listed => agree name (List.mem_append.mpr listed)⟩

/-- Which inputs in the report on a load are records with a field of this name. -/
def showsField (name : String) (source : Source) : List Bool :=
  match load source with
  | .ok _ => []
  | .error fault => fault.issues.map fun issue => (issue.input.field? name).isSome

/-- A name in the file that is no key shows in the report on a missing key, and the texts of the
keys alone do not have it. -/
theorem unknown_name_shown :
    (⟨[], some "OTHER=y"⟩ : Source).merged = [] ∧
      showsField "OTHER" ⟨[], some "OTHER=y"⟩ = [true] ∧
      showsField "OTHER" ⟨[], none⟩ = [false] := by
  decide +kernel

end SavingsSite.Settings
