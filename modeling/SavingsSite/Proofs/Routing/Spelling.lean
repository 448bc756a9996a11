import SavingsSite.Routing.Template

set_option autoImplicit false

/-! What a template fits, told without a search. A template has finitely many spellings, each a list
of single characters and runs of characters, and it fits the paths that have one of its spellings. -/

namespace SavingsSite.Routing

/-- The characters that may stand at a place of a path. -/
inductive Chars where
  | only (c : Char)
  | noSlash
  | noLineEnd
  | digit
  | hex
  deriving DecidableEq, Repr

def Chars.has : Chars → Char → Bool
  | only d, c => c = d
  | noSlash, c => c ≠ '/'
  | noLineEnd, c => c ≠ '\n'
  | digit, c => c.isDigit
  | hex, c => Text.isHexDigit c

inductive Stroke where
  | one (chars : Chars)
  | many (chars : Chars)
  deriving DecidableEq, Repr

abbrev Spelling := List Stroke

inductive Spells : Spelling → List Char → Prop
  | nil : Spells [] []
  | one {chars : Chars} {c : Char} {rest : Spelling} {text : List Char}
      (has : chars.has c = true) (later : Spells rest text) :
      Spells (.one chars :: rest) (c :: text)
  | stop {chars : Chars} {rest : Spelling} {text : List Char} (later : Spells rest text) :
      Spells (.many chars :: rest) text
  | more {chars : Chars} {c : Char} {rest : Spelling} {text : List Char}
      (has : chars.has c = true) (again : Spells (.many chars :: rest) text) :
      Spells (.many chars :: rest) (c :: text)

def run (chars : Chars) : Spelling := [.one chars, .many chars]

/-- Groups of hexadecimal digits, with or without a hyphen between two of them. -/
def hexSpellings : List Nat → List Spelling
  | [] => [[]]
  | count :: groups =>
      let block := List.replicate count (.one .hex)
      match groups with
      | [] => [block]
      | _ :: _ => (hexSpellings groups).flatMap fun rest =>
          [block ++ rest, block ++ .one (.only '-') :: rest]

def ParamKind.spellings : ParamKind → List Spelling
  | segment => [run .noSlash]
  | path => [[.many .noLineEnd]]
  | whole => [run .digit]
  | real => [run .digit, run .digit ++ .one (.only '.') :: run .digit]
  | uuid => hexSpellings [8, 4, 4, 4, 12]

/-- The spellings of the paths that a template fits; a line end may follow. -/
def Template.spellings : Template → List Spelling
  | [] => [[], [.one (.only '\n')]]
  | .char c :: parts => (spellings parts).map (.one (.only c) :: ·)
  | .parameter _ kind :: parts =>
      kind.spellings.flatMap fun taken => (spellings parts).map (taken ++ ·)

/-! ### Spelled texts -/

theorem spells_nil_iff (text : List Char) : Spells [] text ↔ text = [] := by
  constructor
  · intro spelled
    cases spelled
    rfl
  · rintro rfl
    exact .nil

theorem spells_one_iff (chars : Chars) (rest : Spelling) (text : List Char) :
    Spells (.one chars :: rest) text ↔
      ∃ c later, text = c :: later ∧ chars.has c = true ∧ Spells rest later := by
  constructor
  · intro spelled
    cases spelled with
    | one has later => exact ⟨_, _, rfl, has, later⟩
  · rintro ⟨c, later, rfl, has, spelled⟩
    exact .one has spelled

theorem spells_many_iff (chars : Chars) (text : List Char) :
    Spells [.many chars] text ↔ ∀ c ∈ text, chars.has c = true := by
  constructor
  · intro spelled
    induction text with
    | nil => exact List.forall_mem_nil _
    | cons c rest ih =>
        cases spelled with
        | stop later => cases later
        | more has again => exact List.forall_mem_cons.mpr ⟨has, ih again⟩
  · intro all
    induction text with
    | nil => exact .stop .nil
    | cons c rest ih =>
        rw [List.forall_mem_cons] at all
        exact .more all.1 (ih all.2)

theorem spells_run_iff (chars : Chars) (text : List Char) :
    Spells (run chars) text ↔ text ≠ [] ∧ ∀ c ∈ text, chars.has c = true := by
  rw [run, spells_one_iff]
  constructor
  · rintro ⟨c, later, rfl, has, spelled⟩
    exact ⟨List.cons_ne_nil c later,
      List.forall_mem_cons.mpr ⟨has, (spells_many_iff chars later).mp spelled⟩⟩
  · rintro ⟨nonempty, all⟩
    cases text with
    | nil => exact absurd rfl nonempty
    | cons c later =>
        rw [List.forall_mem_cons] at all
        exact ⟨c, later, rfl, all.1, (spells_many_iff chars later).mpr all.2⟩

theorem spells_replicate_iff (count : Nat) (chars : Chars) (text : List Char) :
    Spells (List.replicate count (.one chars)) text ↔
      text.length = count ∧ ∀ c ∈ text, chars.has c = true := by
  induction count generalizing text with
  | zero =>
      rw [List.replicate_zero, spells_nil_iff]
      constructor
      · rintro rfl
        exact ⟨rfl, List.forall_mem_nil _⟩
      · rintro ⟨empty, _⟩
        exact List.length_eq_zero_iff.mp empty
  | succ count ih =>
      rw [List.replicate_succ, spells_one_iff]
      constructor
      · rintro ⟨c, later, rfl, has, spelled⟩
        obtain ⟨length, all⟩ := (ih later).mp spelled
        exact ⟨congrArg (· + 1) length, List.forall_mem_cons.mpr ⟨has, all⟩⟩
      · rintro ⟨length, all⟩
        cases text with
        | nil => cases length
        | cons c later =>
            rw [List.forall_mem_cons] at all
            exact ⟨c, later, rfl, all.1, (ih later).mpr ⟨Nat.succ.inj length, all.2⟩⟩

theorem spells_append_iff (first rest : Spelling) (text : List Char) :
    Spells (first ++ rest) text ↔
      ∃ front back, text = front ++ back ∧ Spells first front ∧ Spells rest back := by
  constructor
  · intro spelled
    generalize whole : first ++ rest = both at spelled
    induction spelled generalizing first with
    | nil =>
        obtain ⟨rfl, rfl⟩ := List.append_eq_nil_iff.mp whole
        exact ⟨[], [], rfl, .nil, .nil⟩
    | @one chars c tail text has later ih =>
        cases first with
        | nil =>
            cases whole
            exact ⟨[], c :: text, rfl, .nil, .one has later⟩
        | cons stroke first =>
            cases whole
            obtain ⟨front, back, rfl, spelledFront, spelledBack⟩ := ih first rfl
            exact ⟨c :: front, back, rfl, .one has spelledFront, spelledBack⟩
    | @stop chars tail text later ih =>
        cases first with
        | nil =>
            cases whole
            exact ⟨[], text, rfl, .nil, .stop later⟩
        | cons stroke first =>
            cases whole
            obtain ⟨front, back, rfl, spelledFront, spelledBack⟩ := ih first rfl
            exact ⟨front, back, rfl, .stop spelledFront, spelledBack⟩
    | @more chars c tail text has again ih =>
        cases first with
        | nil =>
            cases whole
            exact ⟨[], c :: text, rfl, .nil, .more has again⟩
        | cons stroke first =>
            obtain ⟨front, back, rfl, spelledFront, spelledBack⟩ := ih (stroke :: first) whole
            cases whole
            exact ⟨c :: front, back, rfl, .more has spelledFront, spelledBack⟩
  · rintro ⟨front, back, rfl, spelledFront, spelledBack⟩
    induction spelledFront with
    | nil => exact spelledBack
    | one has _ ih => exact .one has ih
    | stop _ ih => exact .stop ih
    | more has _ ih => exact .more has ih

/-! ### Parameters -/

def ParamKind.Accepts (kind : ParamKind) (text : List Char) : Prop :=
  ∃ spelling ∈ kind.spellings, Spells spelling text

namespace ParamKind

theorem mem_descending (low high n : Nat) : n ∈ descending low high ↔ low ≤ n ∧ n ≤ high := by
  rw [descending, List.mem_reverse, List.mem_map]
  constructor
  · rintro ⟨m, member, rfl⟩
    have bound := List.mem_range.mp member
    omega
  · intro between
    exact ⟨n - low, List.mem_range.mpr (by omega), by omega⟩

theorem length_le_runLength_iff (belongs : Char → Bool) (taken rest : List Char) :
    taken.length ≤ runLength belongs (taken ++ rest) ↔ ∀ c ∈ taken, belongs c = true := by
  induction taken with
  | nil => exact iff_of_true (Nat.zero_le _) (List.forall_mem_nil _)
  | cons c taken ih =>
      rw [List.forall_mem_cons, ← ih, List.cons_append, runLength, runLength]
      by_cases first : belongs c = true
      · rw [List.takeWhile_cons_of_pos first, List.length_cons, List.length_cons,
          Nat.succ_le_succ_iff, and_iff_right first]
      · rw [List.takeWhile_cons_of_neg first]
        exact iff_of_false (Nat.not_succ_le_zero _) fun both => first both.1

theorem runLength_le (belongs : Char → Bool) (input : List Char) :
    runLength belongs input ≤ input.length :=
  (List.takeWhile_prefix belongs).length_le

theorem drop_runLength (belongs : Char → Bool) (input : List Char) :
    input.drop (runLength belongs input) = input.dropWhile belongs := by
  have parts := congrArg (List.drop (input.takeWhile belongs).length)
    (List.takeWhile_append_dropWhile (p := belongs) (l := input))
  rw [List.drop_left] at parts
  exact parts.symm

theorem mem_lengths_real_iff (input : List Char) (n : Nat) :
    n ∈ real.lengths input ↔ (1 ≤ n ∧ n ≤ runLength Char.isDigit input) ∨
      ∃ after k, runLength Char.isDigit input ≠ 0 ∧
        input.dropWhile Char.isDigit = '.' :: after ∧
        1 ≤ k ∧ k ≤ runLength Char.isDigit after ∧ n = runLength Char.isDigit input + 1 + k := by
  simp only [lengths, List.mem_append, List.mem_map, mem_descending, drop_runLength]
  rw [or_comm]
  refine or_congr_right ?_
  generalize runLength Char.isDigit input = size
  cases size with
  | zero =>
      simp only [ne_eq, not_true_eq_false, false_and, exists_false, iff_false]
      rintro ⟨k, bounds, _⟩
      omega
  | succ size =>
      cases input.dropWhile Char.isDigit with
      | nil =>
          simp only [reduceCtorEq, false_and, and_false, exists_false, iff_false]
          rintro ⟨k, bounds, _⟩
          omega
      | cons c after =>
          by_cases point : c = '.'
          · subst point
            constructor
            · rintro ⟨k, ⟨positive, atMost⟩, rfl⟩
              exact ⟨after, k, Nat.succ_ne_zero size, rfl, positive, atMost, rfl⟩
            · rintro ⟨_, k, _, same, positive, atMost, rfl⟩
              cases same
              exact ⟨k, ⟨positive, atMost⟩, rfl⟩
          · refine iff_of_false ?_ ?_
            · rintro ⟨k, bounds, _⟩
              split at bounds
              · omega
              · rename_i same _
                exact point (List.cons.inj same).1
              · omega
            · rintro ⟨_, _, _, same, _⟩
              exact point (List.cons.inj same).1

def Digits (text : List Char) : Prop := text ≠ [] ∧ ∀ c ∈ text, c.isDigit = true

theorem accepts_real_iff (text : List Char) :
    real.Accepts text ↔ Digits text ∨
      ∃ front back, text = front ++ '.' :: back ∧ Digits front ∧ Digits back := by
  have runs (part : List Char) : Spells (run .digit) part ↔ Digits part := spells_run_iff .digit part
  simp only [Accepts, spellings, List.mem_cons, List.not_mem_nil, or_false, exists_eq_or_imp,
    exists_eq_left, runs, spells_append_iff, spells_one_iff]
  refine or_congr_right ?_
  constructor
  · rintro ⟨front, _, rfl, first, c, back, rfl, isPoint, last⟩
    obtain rfl : c = '.' := of_decide_eq_true isPoint
    exact ⟨front, back, rfl, first, last⟩
  · rintro ⟨front, back, rfl, first, last⟩
    exact ⟨front, _, rfl, first, '.', back, rfl, rfl, last⟩

theorem runLength_of_point {front : List Char} (digits : Digits front) (after : List Char) :
    runLength Char.isDigit (front ++ '.' :: after) = front.length ∧
      (front ++ '.' :: after).dropWhile Char.isDigit = '.' :: after := by
  have noDigit : ¬ ('.' : Char).isDigit = true := by decide
  rw [runLength, List.takeWhile_append_of_pos digits.2, List.takeWhile_cons_of_neg noDigit,
    List.append_nil, List.dropWhile_append_of_pos digits.2, List.dropWhile_cons_of_neg noDigit]
  exact ⟨rfl, rfl⟩

theorem length_mem_lengths_real_iff (taken rest : List Char) :
    taken.length ∈ real.lengths (taken ++ rest) ↔ real.Accepts taken := by
  rw [mem_lengths_real_iff, length_le_runLength_iff, accepts_real_iff, Digits,
    ← List.length_pos_iff]
  refine or_congr_right ?_
  constructor
  · rintro ⟨after, k, nonzero, pointAt, positive, atMost, length⟩
    have whole := List.takeWhile_append_dropWhile (p := Char.isDigit) (l := taken ++ rest)
    have digits : ∀ c ∈ (taken ++ rest).takeWhile Char.isDigit, c.isDigit = true :=
      fun c member => List.all_eq_true.mp List.all_takeWhile c member
    rw [pointAt] at whole
    rw [runLength] at nonzero length
    generalize (taken ++ rest).takeWhile Char.isDigit = front at nonzero length whole digits
    have short : (after.take k).length = k :=
      List.length_take_of_le (Nat.le_trans atMost (runLength_le _ _))
    have fraction : ∀ c ∈ after.take k, c.isDigit = true := by
      rw [← length_le_runLength_iff Char.isDigit (after.take k) (after.drop k),
        List.take_append_drop, short]
      exact atMost
    have takenAt : taken = front ++ '.' :: after.take k := by
      have cut := congrArg (List.take taken.length) whole
      rw [List.take_left, length, Nat.add_assoc, List.take_length_add_append, Nat.add_comm 1,
        List.take_succ_cons] at cut
      exact cut.symm
    refine ⟨front, after.take k, takenAt, ⟨?_, digits⟩, ?_, fraction⟩
    · exact List.ne_nil_of_length_pos (Nat.pos_of_ne_zero nonzero)
    · exact List.ne_nil_of_length_pos (by omega)
  · rintro ⟨front, back, rfl, first, last⟩
    obtain ⟨size, behind⟩ := runLength_of_point first (back ++ rest)
    rw [← List.cons_append, ← List.append_assoc] at size behind
    rw [size, behind]
    refine ⟨back ++ rest, back.length, Nat.ne_of_gt (List.length_pos_iff.mpr first.1), rfl,
      List.length_pos_iff.mpr last.1, (length_le_runLength_iff _ _ _).mpr last.2, ?_⟩
    rw [List.length_append, List.length_cons]
    omega

/-! ### Groups of hexadecimal digits -/

def HexGroups (groups : List Nat) (text : List Char) : Prop :=
  ∃ spelling ∈ hexSpellings groups, Spells spelling text

def HexBlock (count : Nat) (text : List Char) : Prop :=
  text.length = count ∧ ∀ c ∈ text, Text.isHexDigit c = true

theorem hexGroups_single_iff (count : Nat) (text : List Char) :
    HexGroups [count] text ↔ HexBlock count text := by
  have block := spells_replicate_iff count .hex text
  simp only [HexGroups, hexSpellings, List.mem_singleton, exists_eq_left]
  exact block

theorem hexGroups_cons_iff (count next : Nat) (groups : List Nat) (text : List Char) :
    HexGroups (count :: next :: groups) text ↔ ∃ block tail, text = block ++ tail ∧
      HexBlock count block ∧ (HexGroups (next :: groups) tail ∨
        ∃ later, tail = '-' :: later ∧ HexGroups (next :: groups) later) := by
  have block (front : List Char) : Spells (List.replicate count (.one .hex)) front ↔
      HexBlock count front := spells_replicate_iff count .hex front
  constructor
  · rintro ⟨spelling, member, spelled⟩
    obtain ⟨rest, restMember, either⟩ := List.mem_flatMap.mp member
    rcases List.mem_cons.mp either with rfl | last
    · obtain ⟨front, tail, rfl, first, later⟩ := (spells_append_iff _ _ _).mp spelled
      exact ⟨front, tail, rfl, (block front).mp first, Or.inl ⟨rest, restMember, later⟩⟩
    · rw [List.mem_singleton.mp last, spells_append_iff] at spelled
      obtain ⟨front, _, rfl, first, later⟩ := spelled
      obtain ⟨c, tail, rfl, isHyphen, spelledTail⟩ := (spells_one_iff _ _ _).mp later
      obtain rfl : c = '-' := of_decide_eq_true isHyphen
      exact ⟨front, _, rfl, (block front).mp first, Or.inr ⟨tail, rfl, rest, restMember, spelledTail⟩⟩
  · rintro ⟨front, tail, rfl, first, ⟨rest, member, later⟩ | ⟨later, rfl, rest, member, spelled⟩⟩
    · exact ⟨_, List.mem_flatMap.mpr ⟨rest, member, List.mem_cons_self⟩,
        (spells_append_iff _ _ _).mpr ⟨front, tail, rfl, (block front).mpr first, later⟩⟩
    · exact ⟨_, List.mem_flatMap.mpr ⟨rest, member, List.mem_cons_of_mem _ List.mem_cons_self⟩,
        (spells_append_iff _ _ _).mpr
          ⟨front, _, rfl, (block front).mpr first, .one rfl spelled⟩⟩

theorem HexGroups.head {next : Nat} {groups : List Nat} (positive : 0 < next) {text : List Char}
    (accepted : HexGroups (next :: groups) text) :
    ∃ c rest, text = c :: rest ∧ Text.isHexDigit c = true := by
  have starts {front : List Char} (block : HexBlock next front) (tail : List Char) :
      ∃ c rest, front ++ tail = c :: rest ∧ Text.isHexDigit c = true := by
    cases front with
    | nil => exact absurd block.1.symm (Nat.ne_of_gt positive)
    | cons c rest => exact ⟨c, rest ++ tail, rfl, block.2 c List.mem_cons_self⟩
  cases groups with
  | nil =>
      have block := (hexGroups_single_iff next text).mp accepted
      rw [← List.append_nil text]
      exact starts block []
  | cons other groups =>
      obtain ⟨front, tail, rfl, block, _⟩ := (hexGroups_cons_iff _ _ _ _).mp accepted
      exact starts block tail

theorem hexGroups_of_block {count : Nat} {block : List Char} (digits : HexBlock count block)
    (groups : List Nat) (tail : List Char) :
    hexGroups (count :: groups) (block ++ tail) =
      match groups, tail with
      | [], _ => some count
      | _ :: _, '-' :: later => (hexGroups groups later).map (count + 1 + ·)
      | _ :: _, tail => (hexGroups groups tail).map (count + ·) := by
  have front : (block ++ tail).take count = block := List.take_left' digits.1
  have back : (block ++ tail).drop count = tail := List.drop_left' digits.1
  have holds : (block.length = count && block.all Text.isHexDigit) = true :=
    Bool.and_eq_true_iff.mpr ⟨decide_eq_true digits.1, List.all_eq_true.mpr digits.2⟩
  rw [hexGroups.eq_def]
  dsimp only
  rw [front, back]
  exact if_pos holds

theorem block_of_hexGroups {count n : Nat} {groups : List Nat} {input : List Char}
    (found : hexGroups (count :: groups) input = some n) : HexBlock count (input.take count) := by
  rw [hexGroups.eq_def] at found
  simp only at found
  split at found
  · rename_i holds
    rw [Bool.and_eq_true, decide_eq_true_eq, List.all_eq_true] at holds
    exact holds
  · cases found

/-- The part of a text behind its front when another part of it is longer than the front. -/
theorem exists_between {front tail taken rest : List Char} {count : Nat}
    (parts : front ++ tail = taken ++ rest) (length : taken.length = front.length + count) :
    ∃ between, taken = front ++ between ∧ tail = between ++ rest ∧ between.length = count := by
  rcases List.append_eq_append_iff.mp parts with ⟨between, rfl, rfl⟩ | ⟨between, rfl, rfl⟩
  · rw [List.length_append, Nat.add_left_cancel_iff] at length
    exact ⟨between, rfl, rfl, length⟩
  · rw [List.length_append] at length
    obtain rfl : between = [] := List.length_eq_zero_iff.mp (by omega)
    rw [List.length_nil] at length
    refine ⟨[], ?_, rfl, ?_⟩
    · rw [List.append_nil, List.append_nil]
    · rw [List.length_nil]
      omega

theorem hexGroups_eq_some_iff {groups : List Nat} (positive : ∀ count ∈ groups, 0 < count)
    (taken rest : List Char) :
    hexGroups groups (taken ++ rest) = some taken.length ↔ HexGroups groups taken := by
  induction groups generalizing taken with
  | nil =>
      simp only [hexGroups, HexGroups, hexSpellings, List.mem_singleton, exists_eq_left,
        spells_nil_iff, Option.some.injEq, eq_comm, List.length_eq_zero_iff]
  | cons count groups ih =>
      cases groups with
      | nil =>
          rw [hexGroups_single_iff]
          constructor
          · intro found
            have block := block_of_hexGroups found
            rw [← List.take_append_drop count (taken ++ rest), hexGroups_of_block block] at found
            have length : count = taken.length := Option.some.inj found
            rw [List.take_left' length.symm] at block
            exact block
          · intro block
            rw [hexGroups_of_block block, block.1]
      | cons next groups =>
          rw [List.forall_mem_cons] at positive
          have ih := ih positive.2
          rw [hexGroups_cons_iff]
          constructor
          · intro found
            have block := block_of_hexGroups found
            have parts := List.take_append_drop count (taken ++ rest)
            rw [← parts, hexGroups_of_block block] at found
            generalize (taken ++ rest).take count = front at block parts found
            generalize (taken ++ rest).drop count = tail at parts found
            split at found
            · rename_i none
              cases none
            · rename_i later _
              obtain ⟨more, foundLater, length⟩ := Option.map_eq_some_iff.mp found
              have longer : taken.length = (front ++ ['-']).length + more := by
                rw [List.length_append, block.1, ← length]
                rfl
              rw [← List.singleton_append, ← List.append_assoc] at parts
              obtain ⟨between, rfl, rfl, rfl⟩ := exists_between parts longer
              exact ⟨front, '-' :: between, List.append_assoc _ _ _, block,
                Or.inr ⟨between, rfl, (ih between).mp foundLater⟩⟩
            · obtain ⟨more, foundTail, length⟩ := Option.map_eq_some_iff.mp found
              have longer : taken.length = front.length + more := by
                rw [block.1, length]
              obtain ⟨between, rfl, rfl, rfl⟩ := exists_between parts longer
              exact ⟨front, between, rfl, block, Or.inl ((ih between).mp foundTail)⟩
          · rintro ⟨block, tail, rfl, digits, accepted⟩
            rw [List.append_assoc, hexGroups_of_block digits, List.length_append, digits.1]
            rcases accepted with accepted | ⟨later, rfl, accepted⟩
            · obtain ⟨c, others, rfl, isHex⟩ := accepted.head (positive.2 next List.mem_cons_self)
              have noHyphen : c ≠ '-' := by
                rintro rfl
                cases isHex
              have found := (ih _).mpr accepted
              rw [List.cons_append] at found ⊢
              split
              · rename_i none
                cases none
              · rename_i same
                exact absurd (List.cons.inj same).1 noHyphen
              · rw [found]
                rfl
            · rw [List.cons_append]
              simp only [(ih later).mpr accepted, Option.map_some, List.length_cons]
              rw [Nat.add_assoc, Nat.add_comm 1]

theorem length_mem_lengths_iff (kind : ParamKind) (taken rest : List Char) :
    taken.length ∈ kind.lengths (taken ++ rest) ↔ kind.Accepts taken := by
  cases kind with
  | segment =>
      rw [lengths, mem_descending, length_le_runLength_iff, Accepts, spellings]
      simp only [List.mem_singleton, exists_eq_left, spells_run_iff]
      rw [← List.length_pos_iff]
      rfl
  | path =>
      rw [lengths, mem_descending, length_le_runLength_iff, Accepts, spellings]
      simp only [List.mem_singleton, exists_eq_left, spells_many_iff]
      rw [and_iff_right (Nat.zero_le _)]
      rfl
  | whole =>
      rw [lengths, mem_descending, length_le_runLength_iff, Accepts, spellings]
      simp only [List.mem_singleton, exists_eq_left, spells_run_iff]
      rw [← List.length_pos_iff]
      rfl
  | real => exact length_mem_lengths_real_iff taken rest
  | uuid =>
      rw [lengths, Option.mem_toList]
      exact hexGroups_eq_some_iff (by decide) taken rest

theorem le_of_hexGroups {groups : List Nat} {input : List Char} {n : Nat}
    (found : hexGroups groups input = some n) : n ≤ input.length := by
  induction groups generalizing input n with
  | nil =>
      cases found
      exact Nat.zero_le _
  | cons count groups ih =>
      have block := block_of_hexGroups found
      have parts := List.take_append_drop count input
      rw [← parts, hexGroups_of_block block] at found
      generalize input.take count = front at block parts found
      generalize input.drop count = tail at parts found
      rw [← parts, List.length_append, block.1]
      split at found
      · cases found
        exact Nat.le_add_right _ _
      · obtain ⟨more, foundLater, rfl⟩ := Option.map_eq_some_iff.mp found
        have bounded := ih foundLater
        rw [List.length_cons]
        omega
      · obtain ⟨more, foundTail, rfl⟩ := Option.map_eq_some_iff.mp found
        exact Nat.add_le_add_left (ih foundTail) count

theorem le_of_mem_lengths {kind : ParamKind} {input : List Char} {n : Nat}
    (member : n ∈ kind.lengths input) : n ≤ input.length := by
  cases kind with
  | segment =>
      rw [lengths, mem_descending] at member
      exact Nat.le_trans member.2 (runLength_le _ _)
  | path =>
      rw [lengths, mem_descending] at member
      exact Nat.le_trans member.2 (runLength_le _ _)
  | whole =>
      rw [lengths, mem_descending] at member
      exact Nat.le_trans member.2 (runLength_le _ _)
  | real =>
      have whole := congrArg List.length
        (List.takeWhile_append_dropWhile (p := Char.isDigit) (l := input))
      rw [List.length_append] at whole
      rcases (mem_lengths_real_iff input n).mp member with
        ⟨_, atMost⟩ | ⟨after, k, _, pointAt, _, atMost, rfl⟩
      · exact Nat.le_trans atMost (runLength_le _ _)
      · have fraction := Nat.le_trans atMost (runLength_le _ _)
        rw [pointAt, List.length_cons] at whole
        rw [runLength]
        omega
  | uuid =>
      rw [lengths, Option.mem_toList] at member
      exact le_of_hexGroups member

end ParamKind

/-! ### Templates -/

theorem Template.fits_nil_iff (path : List Char) :
    Template.fits [] path = true ↔ path = [] ∨ path = ['\n'] := by
  rw [fits, captures?, ← Bool.decide_or]
  by_cases ends : path = [] ∨ path = ['\n']
  · rw [if_pos (decide_eq_true ends)]
    exact iff_of_true rfl ends
  · rw [if_neg (by rwa [decide_eq_true_eq])]
    exact iff_of_false Bool.false_ne_true ends

theorem Template.fits_char_iff (c : Char) (parts : Template) (path : List Char) :
    Template.fits (.char c :: parts) path = true ↔
      ∃ rest, path = c :: rest ∧ Template.fits parts rest = true := by
  cases path with
  | nil =>
      refine iff_of_false Bool.false_ne_true ?_
      rintro ⟨_, none, _⟩
      cases none
  | cons d rest =>
      rw [fits, captures?]
      by_cases same : d = c
      · subst same
        rw [if_pos rfl]
        refine ⟨fun fitted => ⟨rest, rfl, fitted⟩, ?_⟩
        rintro ⟨_, parts, fitted⟩
        cases parts
        exact fitted
      · rw [if_neg same]
        refine iff_of_false Bool.false_ne_true ?_
        rintro ⟨_, parts, _⟩
        exact same (List.cons.inj parts).1

theorem Template.fits_parameter_iff (name : String) (kind : ParamKind) (parts : Template)
    (path : List Char) :
    Template.fits (.parameter name kind :: parts) path = true ↔
      ∃ taken rest, path = taken ++ rest ∧ kind.Accepts taken ∧ Template.fits parts rest = true := by
  rw [Template.fits, Template.captures?, List.findSome?_isSome_iff]
  constructor
  · rintro ⟨n, member, captured⟩
    have short : (path.take n).length = n :=
      List.length_take_of_le (ParamKind.le_of_mem_lengths member)
    refine ⟨path.take n, path.drop n, (List.take_append_drop n path).symm, ?_, ?_⟩
    · rw [← kind.length_mem_lengths_iff _ (path.drop n), List.take_append_drop, short]
      exact member
    · rw [Option.isSome_map] at captured
      exact captured
  · rintro ⟨taken, rest, rfl, accepted, fitted⟩
    refine ⟨taken.length, (kind.length_mem_lengths_iff taken rest).mpr accepted, ?_⟩
    rw [List.drop_left, Option.isSome_map]
    exact fitted

theorem Template.fits_iff (t : Template) (path : List Char) :
    t.fits path = true ↔ ∃ spelling ∈ t.spellings, Spells spelling path := by
  induction t generalizing path with
  | nil =>
      simp only [fits_nil_iff, spellings, List.mem_cons, List.not_mem_nil, or_false,
        exists_eq_or_imp, exists_eq_left, spells_nil_iff, spells_one_iff]
      refine or_congr_right ?_
      constructor
      · rintro rfl
        exact ⟨'\n', [], rfl, rfl, rfl⟩
      · rintro ⟨c, _, rfl, isLineEnd, rfl⟩
        rw [of_decide_eq_true isLineEnd]
  | cons part parts ih =>
      cases part with
      | char c =>
          simp only [fits_char_iff, ih, spellings, List.mem_map]
          constructor
          · rintro ⟨rest, rfl, spelling, member, later⟩
            exact ⟨_, ⟨spelling, member, rfl⟩, .one (decide_eq_true rfl) later⟩
          · rintro ⟨_, ⟨spelling, member, rfl⟩, spelled⟩
            obtain ⟨d, rest, rfl, same, later⟩ := (spells_one_iff _ _ _).mp spelled
            obtain rfl : d = c := of_decide_eq_true same
            exact ⟨rest, rfl, spelling, member, later⟩
      | parameter name kind =>
          simp only [fits_parameter_iff, ih, spellings, List.mem_flatMap, List.mem_map]
          constructor
          · rintro ⟨taken, rest, rfl, ⟨first, firstMember, spelledTaken⟩,
              ⟨later, laterMember, spelledRest⟩⟩
            exact ⟨_, ⟨first, firstMember, later, laterMember, rfl⟩,
              (spells_append_iff _ _ _).mpr ⟨taken, rest, rfl, spelledTaken, spelledRest⟩⟩
          · rintro ⟨_, ⟨first, firstMember, later, laterMember, rfl⟩, spelled⟩
            obtain ⟨taken, rest, rfl, spelledTaken, spelledRest⟩ :=
              (spells_append_iff _ _ _).mp spelled
            exact ⟨taken, rest, rfl, ⟨first, firstMember, spelledTaken⟩,
              ⟨later, laterMember, spelledRest⟩⟩

end SavingsSite.Routing
