import SavingsSite.Json.Body
import SavingsSite.Proofs.Json.Documents

set_option autoImplicit false

/-! A reader with a limit on digits gives no longer integers: whatever it holds while it reads is
within the limit, and it ends no number that is not. -/

namespace SavingsSite.Json

open Text (Symbol digit?)

variable {d : Dialect}

theorem fieldsWithin_put {digits : Nat} {name : JsonString} {value : Json} {fields : Fields}
    (within : FieldsWithin digits fields) (own : IntegersWithin digits value) :
    FieldsWithin digits (Fields.put name value fields) := by
  induction fields with
  | nil => exact ⟨own, within⟩
  | cons field more ih =>
      obtain ⟨other, old⟩ := field
      rw [FieldsWithin] at within
      rw [Fields.put]
      split
      · exact ⟨own, within.2⟩
      · exact ⟨within.1, ih within.2⟩

theorem integersWithin_of_get? {digits : Nat} {name : String} {value : Json} {fields : Fields}
    (within : FieldsWithin digits fields) (found : Fields.get? name fields = some value) :
    IntegersWithin digits value := by
  induction fields with
  | nil => cases found
  | cons field more ih =>
      obtain ⟨other, old⟩ := field
      rw [FieldsWithin] at within
      rw [Fields.get?] at found
      split at found
      · rw [← Option.some.inj found]
        exact within.1
      · exact ih within.2 found

theorem isWritable_iff_digits (n : Int) :
    isWritable n = true ↔ (Nat.toDigits 10 n.natAbs).length ≤ digitLimit := by
  rw [isWritable_iff, Nat.length_toDigits_le_iff (by decide) (by decide), firstLong_eq, Nat.pow_eq]

/-! ### What is read so far -/

def Frame.Within (digits : Nat) : Frame → Prop
  | list items => ItemsWithin digits items
  | record fields => FieldsWithin digits fields
  | entry fields _ => FieldsWithin digits fields

def Numeral.Counted (n : Numeral) : Prop := n.isWhole = true → n.digits < Nat.pow 10 n.size

def Mode.Within (digits : Nat) : Mode → Prop
  | word _ _ meant => IntegersWithin digits meant
  | number numeral => numeral.Counted
  | finished result => IntegersWithin digits result
  | _ => True

structure State.Within (digits : Nat) (state : State) : Prop where
  stack : ∀ frame ∈ state.stack, frame.Within digits
  mode : state.mode.Within digits

theorem deliver_within {digits : Nat} {value : Json} {stack : List Frame}
    (own : IntegersWithin digits value) (frames : ∀ frame ∈ stack, frame.Within digits) :
    (deliver value stack).Within digits := by
  cases stack with
  | nil => exact ⟨frames, own⟩
  | cons frame rest =>
      rw [List.forall_mem_cons] at frames
      cases frame with
      | list items => exact ⟨List.forall_mem_cons.mpr ⟨⟨own, frames.1⟩, frames.2⟩, trivial⟩
      | record fields => exact ⟨List.forall_mem_cons.mpr frames, trivial⟩
      | entry fields name =>
          exact ⟨List.forall_mem_cons.mpr ⟨fieldsWithin_put frames.1 own, frames.2⟩, trivial⟩

theorem closeList_within {digits : Nat} {stack : List Frame} {next : State}
    (frames : ∀ frame ∈ stack, frame.Within digits) (closed : closeList stack = some next) :
    next.Within digits := by
  unfold closeList at closed
  split at closed
  · cases closed
    rw [List.forall_mem_cons] at frames
    apply deliver_within _ frames.2
    rw [IntegersWithin, itemsWithin_iff]
    intro value member
    exact (itemsWithin_iff digits _).mp frames.1 value (List.mem_reverse.mp member)
  · cases closed

theorem closeRecord_within {digits : Nat} {stack : List Frame} {next : State}
    (frames : ∀ frame ∈ stack, frame.Within digits) (closed : closeRecord stack = some next) :
    next.Within digits := by
  unfold closeRecord at closed
  split at closed
  · cases closed
    rw [List.forall_mem_cons] at frames
    exact deliver_within frames.1 frames.2
  · cases closed

/-! ### Numbers -/

theorem digit?_lt {c : Char} {k : Nat} (digit : digit? c = some k) : k < 10 := by
  unfold digit? at digit
  split at digit
  case isTrue isDigit =>
    have bounds := Char.isDigit_iff_toNat.mp isDigit
    have zero : '0'.toNat = 48 := rfl
    have nine : '9'.toNat = 57 := rfl
    cases digit
    omega
  case isFalse => cases digit

theorem Numeral.counted_of_partial {n : Numeral} (part : n.isWhole = false) : n.Counted := by
  intro isWhole
  rw [part] at isWhole
  cases isWhole

theorem Numeral.counted_push {n longer : Numeral} {c : Char} (counted : n.Counted)
    (pushed : n.push? d c = some longer) : longer.Counted := by
  unfold Numeral.push? at pushed
  split at pushed
  case h_1 k phase digit =>
    cases pushed
    intro _
    exact digit?_lt digit
  case h_2 k phase digit =>
    split at pushed
    · cases pushed
    · cases pushed
      intro _
      have before : n.digits < Nat.pow 10 n.size := counted (by rw [Numeral.isWhole, phase]; rfl)
      have small := digit?_lt digit
      have longer : Nat.pow 10 (n.size + 1) = Nat.pow 10 n.size * 10 := rfl
      show n.digits * 10 + k < Nat.pow 10 (n.size + 1)
      rw [longer]
      omega
  case h_12 => cases pushed
  all_goals
    repeat' split at pushed
    all_goals cases pushed
    all_goals exact counted_of_partial rfl

theorem Numeral.value_within (positive : 0 < d.digits) {n : Numeral} (counted : n.Counted)
    (short : n.tooLong d = false) : IntegersWithin d.digits n.value := by
  rw [Numeral.value]
  cases isWhole : n.isWhole with
  | false => exact trivial
  | true =>
      rw [Numeral.tooLong, isWhole, Bool.true_and, decide_eq_false_iff_not, Nat.not_lt] at short
      have small : n.digits < 10 ^ d.digits :=
        Nat.lt_of_lt_of_le (counted isWhole) (Nat.pow_le_pow_right (by decide) short)
      have spelled := (Nat.length_toDigits_le_iff (by decide) positive).mpr small
      cases n.negative <;>
        simp only [if_true, Bool.false_eq_true, if_false, IntegersWithin, Int.natAbs_neg,
          Int.natAbs_natCast, spelled]

/-! ### Steps -/

variable {stack : List Frame} {next : State}

theorem openValue?_within {digits place : Nat} {c : Char}
    (frames : ∀ frame ∈ stack, frame.Within digits)
    (opened : openValue? place stack c = some next) : next.Within digits := by
  have inside (frame : Frame) (empty : frame.Within digits) :
      ∀ other ∈ frame :: stack, other.Within digits := List.forall_mem_cons.mpr ⟨empty, frames⟩
  unfold openValue? at opened
  repeat' split at opened
  all_goals cases opened
  · exact ⟨frames, trivial⟩
  · exact ⟨inside (.list []) trivial, trivial⟩
  · exact ⟨inside (.record []) trivial, trivial⟩
  · exact ⟨frames, trivial⟩
  · exact ⟨frames, trivial⟩
  · exact ⟨frames, trivial⟩
  · exact ⟨frames, trivial⟩
  · exact ⟨frames, trivial⟩
  · exact ⟨frames, Numeral.counted_of_partial rfl⟩
  · exact ⟨frames, fun _ => digit?_lt ‹_›⟩
  · exact ⟨frames, fun _ => digit?_lt ‹_›⟩

theorem afterValue?_within {digits : Nat} {c : Char}
    (frames : ∀ frame ∈ stack, frame.Within digits) (after : afterValue? stack c = some next) :
    next.Within digits := by
  unfold afterValue? at after
  split at after
  · cases after
    exact ⟨frames, trivial⟩
  · split at after
    · split at after
      · cases after
        exact ⟨frames, trivial⟩
      · split at after
        · exact closeList_within frames after
        · cases after
    · split at after
      · cases after
        exact ⟨frames, trivial⟩
      · split at after
        · exact closeRecord_within frames after
        · cases after
    · cases after

theorem follow?_within {digits : Nat} {state : State} {c : Char} (within : state.Within digits)
    (followed : follow? state c = some next) : next.Within digits := by
  unfold follow? at followed
  split at followed
  · split at followed
    · cases followed
      exact within
    · cases followed
  · exact afterValue?_within within.stack followed

theorem close_within {digits : Nat} (r : Reading) (frames : ∀ frame ∈ stack, frame.Within digits) :
    (r.close stack).Within digits := by
  unfold Reading.close
  dsimp only
  split
  · split
    · rw [List.forall_mem_cons] at frames
      exact ⟨List.forall_mem_cons.mpr frames, trivial⟩
    · exact ⟨frames, trivial⟩
  · exact deliver_within trivial frames

theorem stepWord_within {digits place start : Nat} {rest : List Char} {meant : Json} {c : Char}
    (frames : ∀ frame ∈ stack, frame.Within digits) (held : IntegersWithin digits meant)
    (stepped : stepChar? d place ⟨stack, .word start rest meant⟩ c = some next) :
    next.Within digits := by
  simp only [stepChar?] at stepped
  split at stepped
  · cases stepped
  · split at stepped
    · cases stepped
      exact deliver_within held frames
    · cases stepped
  · split at stepped
    · cases stepped
      exact ⟨frames, held⟩
    · cases stepped

theorem stepNumber_within (positive : 0 < d.digits) {place : Nat} {n : Numeral} {c : Char}
    (frames : ∀ frame ∈ stack, frame.Within d.digits) (counted : n.Counted)
    (stepped : stepChar? d place ⟨stack, .number n⟩ c = some next) : next.Within d.digits := by
  simp only [stepChar?] at stepped
  split at stepped
  case h_1 longer pushed =>
    cases stepped
    exact ⟨frames, Numeral.counted_push counted pushed⟩
  case h_2 =>
    split at stepped
    · cases stepped
      exact ⟨frames, trivial⟩
    · split at stepped
      case isTrue ends =>
        simp only [Bool.and_eq_true, Bool.not_eq_true'] at ends
        have own := Numeral.value_within positive counted ends.1.2
        exact follow?_within (deliver_within own frames) stepped
      case isFalse => cases stepped

theorem stepString_within {digits place : Nat} {r : Reading} {c : Char}
    (frames : ∀ frame ∈ stack, frame.Within digits)
    (stepped : stepChar? d place ⟨stack, .string r⟩ c = some next) : next.Within digits := by
  simp only [stepChar?] at stepped
  repeat' split at stepped
  all_goals cases stepped
  · exact ⟨frames, trivial⟩
  · exact close_within r frames
  · exact ⟨frames, trivial⟩

theorem stepEscape_within {digits place slash : Nat} {r : Reading} {c : Char}
    (frames : ∀ frame ∈ stack, frame.Within digits)
    (stepped : stepChar? d place ⟨stack, .escape r slash⟩ c = some next) :
    next.Within digits := by
  simp only [stepChar?] at stepped
  split at stepped
  · cases stepped
    exact ⟨frames, trivial⟩
  · split at stepped
    · cases stepped
    · obtain ⟨plain, _, rfl⟩ := Option.map_eq_some_iff.mp stepped
      exact ⟨frames, trivial⟩

theorem stepUnit_within {digits place mark count value : Nat} {r : Reading} {c : Char}
    (frames : ∀ frame ∈ stack, frame.Within digits)
    (stepped : stepChar? d place ⟨stack, .unit r mark count value⟩ c = some next) :
    next.Within digits := by
  simp only [stepChar?] at stepped
  split at stepped
  · cases stepped
  · split at stepped
    · cases stepped
      exact ⟨frames, trivial⟩
    · obtain ⟨longer, _, rfl⟩ := Option.map_eq_some_iff.mp stepped
      exact ⟨frames, trivial⟩

theorem stepChar?_within (positive : 0 < d.digits) {place : Nat} {state : State} {c : Char}
    (within : state.Within d.digits) (stepped : stepChar? d place state c = some next) :
    next.Within d.digits := by
  obtain ⟨stack, mode⟩ := state
  obtain ⟨frames, held⟩ := within
  cases mode with
  | value opening =>
      simp only [stepChar?] at stepped
      split at stepped
      · cases stepped
        exact ⟨frames, held⟩
      · split at stepped
        · exact closeList_within frames stepped
        · split at stepped
          · cases stepped
          · exact openValue?_within frames stepped
  | name first =>
      simp only [stepChar?] at stepped
      split at stepped
      · cases stepped
        exact ⟨frames, held⟩
      · split at stepped
        · cases stepped
          exact ⟨frames, trivial⟩
        · split at stepped
          · exact closeRecord_within frames stepped
          · cases stepped
  | colon =>
      simp only [stepChar?] at stepped
      split at stepped
      · cases stepped
        exact ⟨frames, held⟩
      · split at stepped
        · cases stepped
          exact ⟨frames, trivial⟩
        · cases stepped
  | next => exact afterValue?_within frames stepped
  | word => exact stepWord_within frames held stepped
  | number => exact stepNumber_within positive frames held stepped
  | string => exact stepString_within frames stepped
  | escape => exact stepEscape_within frames stepped
  | unit => exact stepUnit_within frames stepped
  | finished =>
      simp only [stepChar?] at stepped
      split at stepped
      · cases stepped
        exact ⟨frames, held⟩
      · cases stepped

theorem step?_within (positive : 0 < d.digits) {place : Nat} {state : State} {s : Symbol}
    (within : state.Within d.digits) (stepped : step? d place state s = some next) :
    next.Within d.digits := by
  cases s with
  | char c => exact stepChar?_within positive within stepped
  | half unit =>
      simp only [step?] at stepped
      split at stepped
      · cases stepped
        exact ⟨within.stack, trivial⟩
      · cases stepped

/-! ### Whole texts -/

theorem value?_within (positive : 0 < d.digits) {state : State} {value : Json}
    (within : state.Within d.digits) (ended : state.value? d = some value) :
    IntegersWithin d.digits value := by
  obtain ⟨stack, mode⟩ := state
  obtain ⟨frames, held⟩ := within
  unfold State.value? at ended
  split at ended
  case h_1 result _ finished =>
    cases finished
    cases ended
    exact held
  case h_2 n numeral _ =>
    cases numeral
    split at ended
    · rename_i whole
      cases ended
      simp only [Bool.and_eq_true, Bool.not_eq_true'] at whole
      exact Numeral.value_within positive held whole.2
    · cases ended
  case h_3 => cases ended

theorem scanFrom_within (positive : 0 < d.digits) {place : Nat} {state : State}
    {input : List Symbol} {value : Json} (within : state.Within d.digits)
    (read : scanFrom d place state input = .ok value) : IntegersWithin d.digits value := by
  induction input generalizing place state with
  | nil =>
      rw [scanFrom] at read
      split at read
      · cases read
        exact value?_within positive within ‹_›
      · cases read
  | cons s rest ih =>
      rw [scanFrom] at read
      split at read
      · exact ih (step?_within positive within ‹_›) read
      · cases read

theorem Body.read_within {input : List Symbol} {value : Json} (read : Body.read input = .ok value) :
    IntegersWithin digitLimit value := by
  have start : State.Within Body.dialect.digits ⟨[], .value .top⟩ :=
    ⟨List.forall_mem_nil _, trivial⟩
  unfold Body.read at read
  split at read
  · cases read
    exact scanFrom_within (by decide) start ‹_›
  · cases read

end SavingsSite.Json
