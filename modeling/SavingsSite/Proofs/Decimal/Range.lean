import Mathlib.Algebra.Order.Ring.Nat
import SavingsSite.Decimal.Binary64

set_option autoImplicit false

/-! Quotients that do not overflow. The binary logarithms of a numerator and a denominator bound the
exponent of their quotient, so a quotient whose logarithms are not far apart is finite. -/

namespace SavingsSite.Binary64

theorem log2_le_of_le {n k : Nat} (bounded : n ≤ 2 ^ k) : n.log2 ≤ k := by
  by_cases zero : n = 0
  · rw [zero, Nat.log2_zero]
    exact Nat.zero_le k
  · have strict : n < 2 ^ (k + 1) := Nat.lt_of_le_of_lt bounded (Nat.pow_lt_pow_succ Nat.one_lt_two)
    exact Nat.le_of_lt_succ ((Nat.log2_lt zero).mpr strict)

theorem log2_add_le {n : Nat} (positive : n ≠ 0) (k : Nat) : n.log2 + k ≤ (2 ^ k * n).log2 := by
  have nonzero : 2 ^ k * n ≠ 0 := Nat.mul_ne_zero (Nat.ne_of_gt (Nat.two_pow_pos k)) positive
  rw [Nat.le_log2 nonzero, Nat.add_comm, Nat.pow_add]
  exact Nat.mul_le_mul_left _ (Nat.log2_self_le positive)

theorem roundHalfEven_le (num den : Nat) : roundHalfEven num den ≤ num / den + 1 := by
  simp only [roundHalfEven]
  split
  · exact Nat.le_succ _
  · split
    · exact Nat.le_refl _
    · split
      · exact Nat.le_succ _
      · exact Nat.le_refl _

theorem exponentFor_bounds (num den : Nat) :
    (num.log2 : Int) - den.log2 - 53 ≤ exponentFor num den ∧
      exponentFor num den ≤ max leastExponent ((num.log2 : Int) - den.log2 - 52) := by
  simp only [exponentFor]
  split <;> omega

theorem scaled_lt {num den : Nat} (positive : den ≠ 0) {exponent : Int}
    (enough : (num.log2 : Int) - den.log2 - 53 ≤ exponent) :
    (scaled num den exponent).1 / (scaled num den exponent).2 < 2 ^ 54 := by
  have denominator : 0 < den * 2 ^ exponent.toNat :=
    Nat.mul_pos (Nat.pos_of_ne_zero positive) (Nat.two_pow_pos _)
  change num * 2 ^ (-exponent).toNat / (den * 2 ^ exponent.toNat) < 2 ^ 54
  rw [Nat.div_lt_iff_lt_mul denominator]
  calc num * 2 ^ (-exponent).toNat
      < 2 ^ (num.log2 + 1) * 2 ^ (-exponent).toNat :=
        Nat.mul_lt_mul_of_pos_right Nat.lt_log2_self (Nat.two_pow_pos _)
    _ = 2 ^ (num.log2 + 1 + (-exponent).toNat) := (Nat.pow_add 2 _ _).symm
    _ ≤ 2 ^ (54 + (den.log2 + exponent.toNat)) :=
        Nat.pow_le_pow_right Nat.two_pos (by omega)
    _ = 2 ^ 54 * (2 ^ den.log2 * 2 ^ exponent.toNat) := by rw [Nat.pow_add, Nat.pow_add]
    _ ≤ 2 ^ 54 * (den * 2 ^ exponent.toNat) :=
        Nat.mul_le_mul_left _ (Nat.mul_le_mul_right _ (Nat.log2_self_le positive))

theorem ofRatio_finite (negative : Bool) (num den : Nat) (positive : den ≠ 0)
    (near : num.log2 ≤ den.log2 + 1022) :
    ∃ mantissa exponent, ofRatio negative num den = .finite negative mantissa exponent ∧
      mantissa ≤ 2 ^ 54 ∧ exponent ≤ max leastExponent ((num.log2 : Int) - den.log2 - 52) + 1 := by
  unfold ofRatio
  by_cases zero : num = 0
  · rw [if_pos zero]
    exact ⟨0, leastExponent, rfl, Nat.zero_le _, by omega⟩
  · obtain ⟨enough, atMost⟩ := exponentFor_bounds num den
    have digits := scaled_lt positive enough
    have rounded := roundHalfEven_le (scaled num den (exponentFor num den)).1
      (scaled num den (exponentFor num den)).2
    have least : leastExponent = -1074 := rfl
    have greatest : greatestExponent = 971 := rfl
    simp only [if_neg zero]
    generalize roundHalfEven _ _ = mantissa at rounded ⊢
    split
    · rw [if_neg (by omega)]
      exact ⟨_, _, rfl, by omega, by omega⟩
    · rw [if_neg (by omega)]
      exact ⟨_, _, rfl, by omega, by omega⟩

theorem ofInt_finite {n : Int} (digits : n.natAbs.log2 < 512) :
    ∃ negative mantissa exponent, ofInt n = .finite negative mantissa exponent ∧
      mantissa ≤ 2 ^ 54 ∧ exponent ≤ 460 := by
  obtain ⟨mantissa, exponent, found, bounded, small⟩ :=
    ofRatio_finite (decide (n < 0)) n.natAbs 1 Nat.one_ne_zero (by omega)
  have least : leastExponent = -1074 := rfl
  have one : Nat.log2 1 = 0 := rfl
  exact ⟨decide (n < 0), mantissa, exponent, found, bounded, by omega⟩

/-- A number whose exponent is at most 460 is not overflown when it is divided by one that is not
below `2 ^ -500`. -/
theorem divide_finite {mantissa divisor : Nat} {exponent power : Int} (a b : Bool)
    (digits : mantissa ≤ 2 ^ 54) (small : exponent ≤ 460) (nonzero : divisor ≠ 0)
    (large : -500 ≤ power + divisor.log2) :
    ∃ negative m e, divide (.finite a mantissa exponent) (.finite b divisor power) =
      .finite negative m e := by
  have top : (mantissa * 2 ^ (exponent - power).toNat).log2 ≤ 54 + (exponent - power).toNat := by
    refine log2_le_of_le ?_
    rw [Nat.pow_add]
    exact Nat.mul_le_mul_right _ digits
  have bottom := log2_add_le nonzero (-(exponent - power)).toNat
  have positive : 2 ^ (-(exponent - power)).toNat * divisor ≠ 0 :=
    Nat.mul_ne_zero (Nat.ne_of_gt (Nat.two_pow_pos _)) nonzero
  obtain ⟨m, e, quotient, _⟩ := ofRatio_finite (a != b)
    (mantissa * 2 ^ (exponent - power).toNat) _ positive (by omega)
  refine ⟨a != b, m, e, ?_⟩
  rw [divide, if_neg nonzero]
  exact quotient

end SavingsSite.Binary64
