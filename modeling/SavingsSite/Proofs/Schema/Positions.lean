import SavingsSite.Proofs.Json.Limits
import SavingsSite.Proofs.Json.Sending
import SavingsSite.Proofs.Schema.Normal
import SavingsSite.Proofs.Schema.Reading

set_option autoImplicit false

/-! Positions that are read from a request. A position is never negative and it can be written
again; a report on what is none shows the value that was given. -/

namespace SavingsSite.Schema

open Content (position)
open Json (IntegersWithin digitLimit)

/-! ### Integers of few digits -/

theorem ofDigitChars_lt {digits : List Char} (allDigits : ∀ c ∈ digits, c.isDigit = true) :
    Nat.ofDigitChars 10 digits 0 < Nat.pow 10 digits.length := by
  induction digits with
  | nil => decide
  | cons c rest ih =>
      rw [List.forall_mem_cons] at allDigits
      have later := ih allDigits.2
      have bounds := Char.isDigit_iff_toNat.mp allDigits.1
      have nine : '9'.toNat = 57 := rfl
      have zero : '0'.toNat = 48 := rfl
      have longer : Nat.pow 10 (rest.length + 1) = Nat.pow 10 rest.length * 10 :=
        rfl
      rw [Nat.ofDigitChars_cons, Nat.ofDigitChars_eq_ofDigitChars_zero, ← Nat.pow_eq,
        List.length_cons, longer]
      have first : 10 * 0 + (c.toNat - '0'.toNat) ≤ 9 := by omega
      have scaled := Nat.mul_le_mul_left (Nat.pow 10 rest.length) first
      omega

theorem plainInteger_writable {spelling : List Char} {n : Int}
    (read : plainInteger spelling = .ok n) : isWritable n = true := by
  unfold plainInteger at read
  extract_lets negative body digits value at read
  have magnitude : value.natAbs < Nat.pow 10 digits.length :=
    ofDigitChars_lt fun c member => List.mem_takeWhile_imp member
  split at read
  · cases read
  · split at read
    · cases read
    · split at read
      · cases read
      · rename_i fits _
        have signed : n.natAbs = value.natAbs := by
          rw [← Except.ok.inj read]
          split
          · exact Int.natAbs_neg value
          · rfl
        rw [isWritable_iff, signed]
        exact Json.lt_firstLong magnitude (Nat.not_lt.mp fits)

theorem spelledInteger_writable {spelling : List Char} {n : Int}
    (read : spelledInteger spelling = .ok n) : isWritable n = true := by
  unfold spelledInteger at read
  split at read
  · cases read
    exact plainInteger_writable ‹_›
  · cases read
  · split at read
    · rename_i digits _
      cases plain : plainInteger (stripLines (stripPoint digits)) with
      | ok found =>
          rw [plain] at read
          cases read
          exact plainInteger_writable plain
      | error fault =>
          rw [plain] at read
          cases read
    · cases read

/-- A value with short integers only stands for one of them, or for a small one or a spelled one. -/
theorem integerOf_writable {value : Json} {n : Int} (short : IntegersWithin digitLimit value)
    (read : integerOf value = .ok n) : isWritable n = true := by
  cases value with
  | whole m =>
      rw [← Except.ok.inj read]
      exact (Json.isWritable_iff_digits m).mpr short
  | flag b =>
      cases read
      cases b <;> exact isWritable_of_lt (by decide)
  | real x =>
      cases x with
      | finite negative mantissa exponent =>
          simp only [integerOf] at read
          split at read
          · cases read
          · split at read
            · rename_i bounds
              rw [Bool.and_eq_true, decide_eq_true_iff, decide_eq_true_iff, realBound] at bounds
              cases read
              exact isWritable_of_lt (by omega)
            · cases read
      | infinite negative => cases read
      | undefined => cases read
  | text s =>
      cases s with
      | sound spelling =>
          simp only [integerOf] at read
          split at read
          · cases read
            exact spelledInteger_writable ‹_›
          · cases read
          · cases read
      | torn symbols => cases read
  | null => cases read
  | list items => cases read
  | record fields => cases read

/-! ### Positions -/

/-- The numbers that an issue names besides its input can be written. -/
def Issue.IsPlain (issue : Issue) : Prop :=
  (∀ step ∈ issue.path, step.toJson.isSendable = true) ∧
    ∀ field ∈ issue.kind.context, field.2.isSendable = true

theorem Issue.IsPlain.under {issue : Issue} (plain : issue.IsPlain) (name : String) :
    (issue.under (.field name)).IsPlain :=
  ⟨List.forall_mem_cons.mpr ⟨Json.isSendable_of_sound rfl, plain.1⟩, plain.2⟩

theorem integerOf_context {value : Json} {kind : IssueKind}
    (refused : integerOf value = .error kind) :
    kind.context = [] := by
  cases value with
  | whole n => cases refused
  | flag b => cases refused
  | real x =>
      cases x with
      | finite negative mantissa exponent =>
          simp only [integerOf] at refused
          split at refused
          · cases refused
            rfl
          · split at refused
            · cases refused
            · cases refused
              rfl
      | _ =>
          cases refused
          rfl
  | text s =>
      cases s with
      | sound spelling =>
          simp only [integerOf] at refused
          split at refused
          · cases refused
          · cases refused
            rfl
          · cases refused
            rfl
      | torn symbols =>
          cases refused
          rfl
  | _ =>
      cases refused
      rfl

/-- A position is natural, and it can be written when the integers that it was read from can. -/
theorem position_read_ok {origin : Origin} {value result : Json}
    (read : position.read origin value = .ok result) (short : IntegersWithin digitLimit value) :
    ∃ n, result = .whole n ∧ 0 ≤ n ∧ isWritable n = true := by
  simp only [position, Shape.read] at read
  split at read
  · cases read
  · rename_i n stands
    split at read
    · rename_i inside
      cases read
      refine ⟨n, rfl, ?_, integerOf_writable short stands⟩
      by_contra negative
      rw [boundIssue?, if_pos (Int.not_le.mp negative)] at inside
      cases inside
    · cases read

theorem position_read_error {origin : Origin} {value : Json} {issues : List Issue}
    (refused : position.read origin value = .error issues) :
    ∀ issue ∈ issues, issue.input = value ∧ issue.IsPlain := by
  have noSteps : ∀ step ∈ ([] : List Step), step.toJson.isSendable = true := List.forall_mem_nil _
  simp only [position, Shape.read] at refused
  split at refused
  · rename_i kind stands
    cases refused
    refine List.forall_mem_singleton.mpr ⟨rfl, noSteps, ?_⟩
    rw [integerOf_context stands]
    exact List.forall_mem_nil _
  · split at refused
    · cases refused
    · rename_i kind found
      cases refused
      refine List.forall_mem_singleton.mpr ⟨rfl, noSteps, ?_⟩
      simp only [boundIssue?] at found
      split at found
      · cases found
        exact List.forall_mem_singleton.mpr
          (Json.isSendable_of_sound (isWritable_of_lt (by decide)))
      · cases found

theorem nullablePosition_read_ok {origin : Origin} {value result : Json}
    (read : (Shape.nullable position).read origin value = .ok result)
    (short : IntegersWithin digitLimit value) :
    result = .null ∨ ∃ n, result = .whole n ∧ 0 ≤ n ∧ isWritable n = true := by
  rw [Shape.read.eq_def] at read
  dsimp only at read
  split at read
  · cases read
    exact Or.inl rfl
  · exact Or.inr (position_read_ok read short)

theorem nullablePosition_read_error {origin : Origin} {value : Json} {issues : List Issue}
    (refused : (Shape.nullable position).read origin value = .error issues) :
    ∀ issue ∈ issues, issue.input = value ∧ issue.IsPlain := by
  rw [Shape.read.eq_def] at refused
  dsimp only at refused
  split at refused
  · cases refused
  · exact position_read_error refused

/-! ### Toggle requests -/

/-- What is wrong with a field is that it is missing, or it is wrong with the value given for it. -/
theorem Field.isPlain_of_issue {origin : Origin} {given : Json.Fields} {field : Field}
    (plain : ∀ value issues, field.shape.read origin value = .error issues →
      ∀ issue ∈ issues, issue.IsPlain) :
    ∀ issue ∈ issuesOf (field.read origin given), issue.IsPlain := by
  cases found : Json.Fields.get? field.name given with
  | some value =>
      simp only [Field.read, found]
      cases read : field.shape.read origin value with
      | ok result => exact List.forall_mem_nil _
      | error issues =>
          intro issue member
          obtain ⟨inner, isIssue, rfl⟩ := List.mem_map.mp member
          exact (plain value issues read inner isIssue).under field.name
  | none =>
      cases default : field.default with
      | some value =>
          simp only [Field.read, found, default]
          exact List.forall_mem_nil _
      | none =>
          simp only [Field.read, found, default]
          refine List.forall_mem_singleton.mpr ⟨?_, List.forall_mem_nil _⟩
          exact List.forall_mem_singleton.mpr (Json.isSendable_of_sound rfl)

theorem toggleRequest_read_error {value : Json} {issues : List Issue}
    (refused : Content.toggleRequestKind.shape.read .request value = .error issues) :
    ∀ issue ∈ issues, issue.IsPlain := by
  simp only [RecordKind.shape, Shape.read] at refused
  split at refused
  · rename_i given
    have own : issues = issuesOf (Content.toggleRequestKind.fields.read .request given) := by
      rw [← issuesOf_map Json.record, refused]
      rfl
    rw [own, Fields.issuesOf_read]
    intro issue member
    obtain ⟨field, isField, isIssue⟩ := List.mem_flatMap.mp member
    have both : ∀ field ∈ Content.toggleRequestKind.fields.toList, ∀ value issues,
        field.shape.read .request value = .error issues → ∀ issue ∈ issues, issue.IsPlain := by
      refine List.forall_mem_cons.mpr ⟨?_, List.forall_mem_singleton.mpr ?_⟩
      · intro value issues refused issue member
        exact (nullablePosition_read_error refused issue member).2
      · intro value issues refused issue member
        exact (position_read_error refused issue member).2
    exact Field.isPlain_of_issue (both field isField) issue isIssue
  · cases refused
    exact List.forall_mem_singleton.mpr ⟨List.forall_mem_nil _, List.forall_mem_nil _⟩

theorem Field.read_eq_ok {origin : Origin} {given : Json.Fields} {field : Field} {result : Json}
    (read : field.read origin given = .ok result) :
    (∃ value, Json.Fields.get? field.name given = some value ∧
      field.shape.read origin value = .ok result) ∨ field.default = some result := by
  cases found : Json.Fields.get? field.name given with
  | some value =>
      simp only [Field.read, found] at read
      exact Or.inl ⟨value, rfl, mapError_eq_ok_iff.mp read⟩
  | none =>
      cases default : field.default with
      | some value =>
          simp only [Field.read, found, default] at read
          exact Or.inr (congrArg some (Except.ok.inj read))
      | none =>
          simp only [Field.read, found, default] at read
          cases read

/-- The index of a toggle request is a natural number that can be written, and so is its open index
unless there is none. -/
theorem toggleRequest_read_ok {value record : Json} (short : IntegersWithin digitLimit value)
    (read : Content.toggleRequestKind.shape.read .request value = .ok record) :
    ∃ openIndex n, record = .record [(.sound "open_index", openIndex), (.sound "index", .whole n)] ∧
      (openIndex = .null ∨ ∃ m, openIndex = .whole m ∧ 0 ≤ m ∧ isWritable m = true) ∧
      0 ≤ n ∧ isWritable n = true := by
  simp only [RecordKind.shape, Shape.read] at read
  split at read
  · rename_i given
    obtain ⟨values, fields, rfl⟩ := map_eq_ok_iff.mp read
    have within : Json.FieldsWithin digitLimit given := short
    obtain ⟨⟨_, openIndex⟩, _, ⟨rfl, openRead⟩, more, rfl⟩ :=
      List.forall₂_cons_left_iff.mp ((Fields.read_eq_ok_iff _ _).mp fields)
    obtain ⟨⟨_, index⟩, _, ⟨rfl, indexRead⟩, none, rfl⟩ := List.forall₂_cons_left_iff.mp more
    obtain rfl := List.forall₂_nil_left_iff.mp none
    obtain ⟨n, rfl, natural⟩ : ∃ n, index = .whole n ∧ 0 ≤ n ∧ isWritable n = true := by
      rcases Field.read_eq_ok indexRead with ⟨value, found, read⟩ | absent
      · exact position_read_ok read (Json.integersWithin_of_get? within found)
      · cases absent
    refine ⟨openIndex, n, rfl, ?_, natural⟩
    rcases Field.read_eq_ok openRead with ⟨value, found, read⟩ | absent
    · exact nullablePosition_read_ok read (Json.integersWithin_of_get? within found)
    · exact Or.inl (Option.some.inj absent).symm
  · cases read

end SavingsSite.Schema
