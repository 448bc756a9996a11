import Mathlib.Data.Nat.Cast.Field
import Mathlib.Tactic.Linarith
import SavingsSite.Proofs.Decimal.Order

set_option autoImplicit false

/-! The floor of a rounded quotient. Rounding moves a quotient by at most half the spacing of the
numbers around it. For integers below `2 ^ 53` that is less than the reciprocal of the divisor, and
the next integer is at least that far above their quotient. -/

namespace SavingsSite.Binary64

/-! ### How far rounding goes -/

theorem two_mul_roundHalfEven_le (num den : Nat) :
    2 * (roundHalfEven num den * den) ≤ 2 * num + den := by
  have whole := Nat.div_add_mod' num den
  have next : (num / den + 1) * den = num / den * den + den := Nat.succ_mul _ den
  simp only [roundHalfEven]
  split
  · omega
  · split
    · rw [next]
      omega
    · split
      · omega
      · rw [next]
        omega

theorem roundHalfEven_of_dvd {num den : Nat} (positive : 0 < den) (divides : den ∣ num) :
    roundHalfEven num den = num / den := by
  simp only [roundHalfEven]
  rw [Nat.mod_eq_zero_of_dvd divides, Nat.mul_zero, if_pos positive]

theorem rounded_of_dvd {num den : Nat} (positive : 0 < den)
    (divides : (scaled num den (exponentFor num den)).2 ∣ (scaled num den (exponentFor num den)).1) :
    magnitude (mantissaFor num den) (exponentFor num den) = num / den := by
  have bottom := scaled_pos positive num (exponentFor num den)
  have nonzero : ((scaled num den (exponentFor num den)).2 : ℚ) ≠ 0 :=
    Nat.cast_ne_zero.mpr bottom.ne'
  rw [magnitude, mantissaFor, roundHalfEven_of_dvd bottom divides, Nat.cast_div divides nonzero,
    scaled_eq, div_mul_cancel₀ _ (zpow_ne_zero _ two_ne_zero)]

theorem rounded_le (num : Nat) {den : Nat} (positive : 0 < den) :
    magnitude (mantissaFor num den) (exponentFor num den) ≤
      num / den + 2 ^ exponentFor num den / 2 := by
  have spacing : (0 : ℚ) < 2 ^ exponentFor num den := zpow_pos two_pos _
  have bottom : (0 : ℚ) < (scaled num den (exponentFor num den)).2 :=
    Nat.cast_pos.mpr (scaled_pos positive _ _)
  have nearest : (mantissaFor num den : ℚ) ≤ num / den / 2 ^ exponentFor num den + 1 / 2 := by
    have within := two_mul_roundHalfEven_le (scaled num den (exponentFor num den)).1
      (scaled num den (exponentFor num den)).2
    rw [← Nat.cast_le (α := ℚ)] at within
    push_cast at within
    rw [← scaled_eq, mantissaFor, ← sub_le_iff_le_add, le_div_iff₀ bottom]
    linarith
  calc magnitude (mantissaFor num den) (exponentFor num den)
      ≤ (num / den / 2 ^ exponentFor num den + 1 / 2) * 2 ^ exponentFor num den :=
        mul_le_mul_of_nonneg_right nearest spacing.le
    _ = num / den + 2 ^ exponentFor num den / 2 := by
        rw [add_mul, div_mul_cancel₀ _ spacing.ne']
        ring

/-- An integer is a number of every spacing up to one, so no quotient is rounded to below it. -/
theorem le_rounded {num den bound : Nat} (positive : 0 < den) (fine : exponentFor num den ≤ 0)
    (atMost : (bound : ℚ) ≤ num / den) :
    bound ≤ magnitude (mantissaFor num den) (exponentFor num den) := by
  have spelled : ((bound * 2 ^ (-exponentFor num den).toNat : Nat) : ℚ) * 2 ^ exponentFor num den =
      bound := by
    have inverse : (2 : ℚ) ^ (-exponentFor num den).toNat * 2 ^ exponentFor num den = 1 := by
      rw [pow_mul_zpow, Int.toNat_of_nonneg (by omega), neg_add_cancel, zpow_zero]
    push_cast
    rw [mul_assoc, inverse, mul_one]
  have mantissas : bound * 2 ^ (-exponentFor num den).toNat ≤ mantissaFor num den := by
    refine le_trans ?_ (div_le_roundHalfEven _ _)
    rw [le_scaled_iff positive, spelled]
    exact atMost
  rw [← spelled]
  exact magnitude_mono mantissas _

/-! ### Quotients with a spacing up to one -/

theorem exponentFor_nonpos {num den : Nat} (nonzero : num ≠ 0) (positive : 0 < den)
    (small : (num / den : ℚ) < 2 ^ 53) : exponentFor num den ≤ 0 := by
  obtain ⟨_, _, above⟩ := exponentFor_spec nonzero positive
  by_contra coarse
  have least : leastExponent = -1074 := rfl
  refine lt_irrefl (num / den : ℚ) ?_
  calc (num / den : ℚ) < 2 ^ 53 := small
    _ = 2 ^ 52 * 2 ^ (1 : Int) := by norm_num
    _ ≤ 2 ^ 52 * 2 ^ exponentFor num den :=
      mul_le_mul_of_nonneg_left (zpow_le_zpow_right₀ one_le_two (by omega)) (by positivity)
    _ ≤ num / den := above (by omega)

theorem floor?_eq {mantissa floor : Nat} {exponent : Int}
    (low : (floor : ℚ) ≤ magnitude mantissa exponent)
    (high : magnitude mantissa exponent < floor + 1) :
    floor? (.finite false mantissa exponent) = some (floor : Int) := by
  have bottom : (0 : ℚ) < (ratio mantissa exponent).2 :=
    Nat.cast_pos.mpr (Nat.two_pow_pos _)
  rw [← ratio_eq, le_div_iff₀ bottom] at low
  rw [← ratio_eq, div_lt_iff₀ bottom] at high
  have quotient : (ratio mantissa exponent).1 / (ratio mantissa exponent).2 = floor := by
    apply Nat.div_eq_of_lt_le
    · exact_mod_cast low
    · exact_mod_cast high
  rw [← quotient]
  rfl

theorem ofRatio_of_fine (negative : Bool) {num den : Nat} (nonzero : num ≠ 0)
    (fine : exponentFor num den ≤ 0) :
    ∃ mantissa exponent, ofRatio negative num den = .finite negative mantissa exponent ∧
      magnitude mantissa exponent = magnitude (mantissaFor num den) (exponentFor num den) := by
  obtain ⟨mantissa, rounded, found⟩ := ofRatio_eq negative nonzero den
  have inRange : ¬ greatestExponent < carriedExponent num den := by
    have greatest : greatestExponent = 971 := rfl
    unfold carriedExponent
    split <;> omega
  exact ⟨mantissa, carriedExponent num den, found.trans (if_neg inRange), rounded⟩

/-! ### Integers below `2 ^ 53` -/

/-- A quotient that is also that of two positive integers below `2 ^ 53`. -/
structure SmallQuotient (num den dividend divisor : Nat) : Prop where
  denPos : 0 < den
  dividendPos : 0 < dividend
  dividendSmall : dividend < 2 ^ 53
  divisorPos : 0 < divisor
  divisorSmall : divisor < 2 ^ 53
  same : (num / den : ℚ) = dividend / divisor

namespace SmallQuotient

variable {num den dividend divisor : Nat}

theorem divisor_cast_pos (small : SmallQuotient num den dividend divisor) : (0 : ℚ) < divisor :=
  Nat.cast_pos.mpr small.divisorPos

theorem num_ne_zero (small : SmallQuotient num den dividend divisor) : num ≠ 0 := by
  intro zero
  have positive : (0 : ℚ) < dividend / divisor :=
    div_pos (Nat.cast_pos.mpr small.dividendPos) small.divisor_cast_pos
  rw [← small.same, zero, Nat.cast_zero, zero_div] at positive
  exact lt_irrefl 0 positive

theorem fine (small : SmallQuotient num den dividend divisor) : exponentFor num den ≤ 0 := by
  apply exponentFor_nonpos small.num_ne_zero small.denPos
  rw [small.same]
  calc (dividend / divisor : ℚ) ≤ dividend :=
        div_le_self (Nat.cast_nonneg dividend) (Nat.one_le_cast.mpr small.divisorPos)
    _ < 2 ^ 53 := by exact_mod_cast small.dividendSmall

theorem spacing_mul_lt (small : SmallQuotient num den dividend divisor) :
    (2 : ℚ) ^ exponentFor num den * divisor < 2 := by
  obtain ⟨least, _, above⟩ := exponentFor_spec small.num_ne_zero small.denPos
  have dividendBound : (dividend : ℚ) < 2 ^ 53 := by exact_mod_cast small.dividendSmall
  have divisorBound : (divisor : ℚ) < 2 ^ 53 := by exact_mod_cast small.divisorSmall
  rcases eq_or_lt_of_le least with subnormal | normal
  · have tiny : (2 : ℚ) ^ leastExponent ≤ 2 ^ (-53 : Int) :=
      zpow_le_zpow_right₀ one_le_two (by decide)
    rw [← subnormal]
    calc (2 : ℚ) ^ leastExponent * divisor ≤ 2 ^ (-53 : Int) * 2 ^ 53 :=
          mul_le_mul tiny divisorBound.le (Nat.cast_nonneg divisor) (by positivity)
      _ < 2 := by norm_num
  · have mantissa := above normal
    rw [small.same, le_div_iff₀ small.divisor_cast_pos] at mantissa
    linarith

theorem rounded_lt (small : SmallQuotient num den dividend divisor) :
    magnitude (mantissaFor num den) (exponentFor num den) < (dividend / divisor : Nat) + 1 := by
  have spacing := small.spacing_mul_lt
  have positive := small.divisor_cast_pos
  have above := rounded_le num small.denPos
  rw [small.same] at above
  refine lt_of_mul_lt_mul_right ?_ positive.le
  calc magnitude (mantissaFor num den) (exponentFor num den) * divisor
      ≤ (dividend / divisor + 2 ^ exponentFor num den / 2) * divisor :=
        mul_le_mul_of_nonneg_right above positive.le
    _ = dividend + 2 ^ exponentFor num den * divisor / 2 := by
        rw [add_mul, div_mul_cancel₀ _ positive.ne']
        ring
    _ < dividend + 1 := by linarith
    _ ≤ ((dividend / divisor : Nat) + 1) * divisor := by
        exact_mod_cast Nat.lt_mul_of_div_lt (Nat.lt_succ_self (dividend / divisor)) small.divisorPos

theorem floor_ofRatio (small : SmallQuotient num den dividend divisor) :
    ∃ mantissa exponent, ofRatio false num den = .finite false mantissa exponent ∧
      floor? (.finite false mantissa exponent) = some ((dividend / divisor : Nat) : Int) := by
  obtain ⟨mantissa, exponent, found, rounded⟩ :=
    ofRatio_of_fine false small.num_ne_zero small.fine
  refine ⟨mantissa, exponent, found, floor?_eq ?_ ?_⟩
  · rw [rounded]
    apply le_rounded small.denPos small.fine
    rw [small.same]
    exact Nat.cast_div_le
  · rw [rounded]
    exact small.rounded_lt

end SmallQuotient

/-- Behind the bound a quotient may be rounded up to the next integer. -/
example : floor? (ofRatio false (2 ^ 54 - 1) 2) = some (2 ^ 53) ∧ (2 ^ 54 - 1) / 2 = 2 ^ 53 - 1 := by
  decide +kernel

theorem ofInt_exact {n : Nat} (positive : 0 < n) (bounded : n < 2 ^ 53) :
    ∃ mantissa exponent, ofInt n = .finite false mantissa exponent ∧
      magnitude mantissa exponent = n := by
  have small : SmallQuotient n 1 n 1 :=
    ⟨Nat.one_pos, positive, bounded, Nat.one_pos, by decide, rfl⟩
  have divides : (scaled n 1 (exponentFor n 1)).2 ∣ (scaled n 1 (exponentFor n 1)).1 := by
    have unscaled : (scaled n 1 (exponentFor n 1)).2 = 1 := by
      change 1 * 2 ^ (exponentFor n 1).toNat = 1
      rw [Int.toNat_of_nonpos small.fine]
      rfl
    rw [unscaled]
    exact Nat.one_dvd _
  obtain ⟨mantissa, exponent, found, rounded⟩ :=
    ofRatio_of_fine false small.num_ne_zero small.fine
  refine ⟨mantissa, exponent, found, ?_⟩
  rw [rounded, rounded_of_dvd Nat.one_pos divides, Nat.cast_one, div_one]

theorem exists_of_toInt? {q : Binary64} {n : Nat} (positive : q.isNonpositive = false)
    (whole : q.toInt? = some (n : Int)) :
    ∃ mantissa exponent, q = .finite false mantissa exponent ∧ magnitude mantissa exponent = n ∧
      0 < n := by
  cases q with
  | infinite negative => cases whole
  | undefined => cases whole
  | finite negative mantissa exponent =>
      rw [isNonpositive, Bool.or_eq_false_iff, decide_eq_false_iff_not] at positive
      obtain ⟨rfl, nonzero⟩ := positive
      simp only [toInt?] at whole
      split at whole
      · rename_i divides
        have quotient := Int.ofNat.inj (Option.some.inj whole)
        have bottom : ((ratio mantissa exponent).2 : ℚ) ≠ 0 :=
          Nat.cast_ne_zero.mpr (Nat.two_pow_pos _).ne'
        have spelled : magnitude mantissa exponent = n := by
          rw [← ratio_eq, ← Nat.cast_div (Nat.dvd_of_mod_eq_zero divides) bottom, quotient]
        have above : (0 : ℚ) < magnitude mantissa exponent :=
          mul_pos (Nat.cast_pos.mpr (Nat.pos_of_ne_zero nonzero)) (zpow_pos two_pos exponent)
        rw [spelled, Nat.cast_pos] at above
        exact ⟨mantissa, exponent, rfl, spelled, above⟩
      · cases whole

/-- Two numbers that stand for integers below `2 ^ 53` are divided without passing an integer. -/
theorem floor_divide {mantissa divided dividend divisor : Nat} {exponent power : Int}
    (dividendIs : magnitude mantissa exponent = dividend) (dividendPos : 0 < dividend)
    (dividendSmall : dividend < 2 ^ 53) (divisorIs : magnitude divided power = divisor)
    (divisorPos : 0 < divisor) (divisorSmall : divisor < 2 ^ 53) :
    ∃ m e, divide (.finite false mantissa exponent) (.finite false divided power) =
      .finite false m e ∧
      floor? (.finite false m e) = some ((dividend / divisor : Nat) : Int) := by
  have nonzero : divided ≠ 0 := by
    intro zero
    rw [zero, magnitude_zero] at divisorIs
    exact divisorPos.ne (Nat.cast_injective divisorIs)
  have small : SmallQuotient (ratio mantissa (exponent - power)).1
      ((ratio mantissa (exponent - power)).2 * divided) dividend divisor := by
    refine ⟨divided_pos mantissa _ nonzero, dividendPos, dividendSmall, divisorPos, divisorSmall, ?_⟩
    rw [divided_eq, dividendIs, divisorIs]
  rw [divide, if_neg nonzero]
  exact small.floor_ofRatio

end SavingsSite.Binary64
