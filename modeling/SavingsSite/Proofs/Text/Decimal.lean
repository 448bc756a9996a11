import SavingsSite.Text.Digit

set_option autoImplicit false

/-! Decimal spellings: which digits a number is spelled with, and that they spell it. -/

namespace SavingsSite.Text

theorem ne_of_isDigit {c other : Char} (digit : c.isDigit = true)
    (notDigit : other.isDigit = false) : c ≠ other := by
  intro same
  rw [same, notDigit] at digit
  cases digit

theorem digit?_of_isDigit {c : Char} (digit : c.isDigit = true) :
    digit? c = some (c.toNat - '0'.toNat) := by
  simp only [digit?, digit, if_true]

theorem isDigit_of_mem_decimal {n : Nat} {c : Char} (member : c ∈ Nat.toDigits 10 n) :
    c.isDigit = true :=
  Nat.isDigit_of_mem_toDigits (Nat.zero_lt_succ 9) (Nat.le_refl 10) member

theorem head_decimal_ne_zero (n : Nat) (positive : 0 < n) :
    (Nat.toDigits 10 n).head? ≠ some '0' := by
  induction n using Nat.strongRecOn with
  | ind n ih =>
      by_cases small : n < 10
      · rw [Nat.toDigits_of_lt_base small, List.head?_cons, ne_eq, Option.some.injEq,
          Nat.digitChar_eq_zero]
        exact Nat.ne_of_gt positive
      · have large : 10 ≤ n := Nat.le_of_not_lt small
        have quotient : 0 < n / 10 := Nat.div_pos large (Nat.zero_lt_succ 9)
        have leading := ih (n / 10) (Nat.div_lt_self positive (by decide)) quotient
        rw [Nat.toDigits_of_base_le (by decide) large, List.head?_append]
        cases spelled : Nat.toDigits 10 (n / 10) with
        | nil => exact absurd spelled Nat.toDigits_ne_nil
        | cons first rest =>
            rw [spelled, List.head?_cons] at leading
            rw [List.head?_cons, Option.some_or]
            exact leading

theorem exists_decimal (n : Nat) :
    ∃ first rest, Nat.toDigits 10 n = first :: rest ∧ first.isDigit = true ∧
      (∀ c ∈ rest, c.isDigit = true) ∧
      Nat.ofDigitChars 10 rest (first.toNat - '0'.toNat) = n ∧
      (first = '0' → n = 0 ∧ rest = []) := by
  cases spelled : Nat.toDigits 10 n with
  | nil => exact absurd spelled Nat.toDigits_ne_nil
  | cons first rest =>
      have allDigits : ∀ c ∈ first :: rest, c.isDigit = true := by
        intro c member
        rw [← spelled] at member
        exact isDigit_of_mem_decimal member
      have value := Nat.ofDigitChars_ten_toDigits (n := n)
      rw [spelled, Nat.ofDigitChars_cons, Nat.mul_zero, Nat.zero_add] at value
      refine ⟨first, rest, rfl, allDigits first List.mem_cons_self,
        fun c member => allDigits c (List.mem_cons_of_mem first member), value, ?_⟩
      intro zero
      rcases Nat.eq_zero_or_pos n with none | positive
      · rw [none, Nat.toDigits_zero] at spelled
        exact ⟨none, (List.cons.inj spelled).2.symm⟩
      · have leading := head_decimal_ne_zero n positive
        rw [spelled, List.head?_cons, zero] at leading
        exact absurd rfl leading

/-! ### Integers -/

theorem toList_toString_ofNat (n : Nat) :
    (toString (Int.ofNat n)).toList = Nat.toDigits 10 n := Nat.toList_repr

theorem toList_toString_negSucc (n : Nat) :
    (toString (Int.negSucc n)).toList = '-' :: Nat.toDigits 10 (n + 1) := by
  rw [Int.toString_eq_repr, Int.repr, String.toList_append, Nat.toList_repr]
  rfl

end SavingsSite.Text
