import Mathlib.Data.List.TakeWhile
import SavingsSite.Content.Shapes
import SavingsSite.Proofs.Text.Decimal

set_option autoImplicit false

/-! Reading values in shapes: the fields of a record one by one, whole numbers as they are, and the
customary text of a number as the number. -/

namespace SavingsSite.Schema

open Content (position)

variable {origin : Origin} {name : String} {shape : Shape} {default : Option Json} {rest : Fields}
  {given : Json.Fields} {value : Json}

theorem read_done (origin : Origin) (given : Json.Fields) :
    Fields.done.read origin given = .ok [] := by
  rw [Fields.read]

theorem read_field_ok {read : Json} (present : Json.Fields.get? name given = some value)
    (found : shape.read origin value = .ok read) :
    (Fields.field name shape default rest).read origin given =
      (rest.read origin given).map ((.sound name, read) :: ·) := by
  simp only [Fields.read, present, found, Except.mapError, both]
  cases rest.read origin given <;> rfl

theorem read_field_error {issues : List Issue} {values : Json.Fields}
    (present : Json.Fields.get? name given = some value)
    (failed : shape.read origin value = .error issues) (others : rest.read origin given = .ok values) :
    (Fields.field name shape default rest).read origin given =
      .error (issues.map (·.under (.field name))) := by
  simp only [Fields.read, present, failed, others, Except.mapError, both]
  rfl

theorem plainInteger_decimal (n : Nat)
    (short : (Nat.toDigits 10 n).length ≤ Json.digitLimit) :
    plainInteger (Nat.toDigits 10 n) = .ok (n : Int) := by
  have value := Nat.ofDigitChars_ten_toDigits (n := n)
  have allDigits : ∀ c ∈ Nat.toDigits 10 n, c.isDigit = true :=
    fun c member => Text.isDigit_of_mem_decimal member
  obtain ⟨first, rest, spelled, digit, _, _, zero⟩ := Text.exists_decimal n
  rw [spelled] at value short allDigits ⊢
  have positive : decide ((first :: rest).head? = some '-') = false := by
    rw [decide_eq_false_iff_not, List.head?_cons, Option.some.injEq]
    exact Text.ne_of_isDigit digit rfl
  have noZero : (decide ((first :: rest).head? = some '0') &&
      decide (1 < (first :: rest).length)) = false := by
    rw [Bool.and_eq_false_iff, decide_eq_false_iff_not, decide_eq_false_iff_not]
    by_cases leading : first = '0'
    · right
      rw [(zero leading).2]
      exact Nat.lt_irrefl 1
    · left
      rw [List.head?_cons, Option.some.injEq]
      exact leading
  have whole := List.takeWhile_eq_self_iff.mpr allDigits
  simp only [plainInteger, positive, Bool.false_eq_true, if_false, whole, noZero,
    if_neg (Nat.not_lt.mpr short), List.isEmpty_cons, Nat.lt_irrefl, decide_false, Bool.or_self,
    value]

theorem spelledInteger_decimal (n : Nat)
    (short : (Nat.toDigits 10 n).length ≤ Json.digitLimit) :
    spelledInteger (Nat.toDigits 10 n) = .ok (n : Int) := by
  rw [spelledInteger, plainInteger_decimal n short]

theorem position_read_whole (origin : Origin) (n : Int) :
    position.read origin (.whole n) =
      if n < 0 then oneIssue (.below 0) (.whole n) else .ok (.whole n) := by
  simp only [position, Shape.read, integerOf, boundIssue?]
  by_cases negative : n < 0
  · simp only [if_pos negative]
  · simp only [if_neg negative]

theorem position_read_text (origin : Origin) (n : Nat)
    (short : (Nat.toDigits 10 n).length ≤ Json.digitLimit) :
    position.read origin (Json.ofString (toString n)) = .ok (.whole n) := by
  have spelled : (toString n).toList = Nat.toDigits 10 n := Nat.toList_repr
  have natural : ¬ (n : Int) < 0 := Int.not_lt.mpr (Int.natCast_nonneg n)
  simp only [position, Shape.read, Json.ofString, integerOf, spelled,
    spelledInteger_decimal n short, boundIssue?, if_neg natural]

end SavingsSite.Schema
