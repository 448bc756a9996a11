import Mathlib.Algebra.Order.Field.Power
import Mathlib.Algebra.Order.Field.Rat
import Mathlib.Data.Nat.Cast.Order.Field
import Mathlib.Tactic.Positivity
import Mathlib.Tactic.Ring
import SavingsSite.Proofs.Decimal.Range

set_option autoImplicit false

/-! The order of rounded quotients. A quotient that is not larger than another is not larger after
rounding either, and it does not overflow when the other does not. Quotients of one exponent are
ordered as their mantissas are; between quotients of different exponents lies a power of two. -/

namespace SavingsSite.Binary64

/-- The number that a mantissa and an exponent stand for. -/
def magnitude (mantissa : Nat) (exponent : Int) : ℚ := mantissa * 2 ^ exponent

theorem pow_eq_div (exponent : Int) :
    (2 : ℚ) ^ exponent = 2 ^ exponent.toNat / 2 ^ (-exponent).toNat := by
  rw [← zpow_natCast, ← zpow_natCast, ← zpow_sub₀ two_ne_zero]
  congr 1
  omega

theorem ratio_eq (mantissa : Nat) (exponent : Int) :
    ((ratio mantissa exponent).1 : ℚ) / (ratio mantissa exponent).2 =
      magnitude mantissa exponent := by
  change ((mantissa * 2 ^ exponent.toNat : Nat) : ℚ) / ((2 ^ (-exponent).toNat : Nat) : ℚ) = _
  rw [magnitude, pow_eq_div]
  push_cast
  exact mul_div_assoc _ _ _

theorem scaled_eq (num den : Nat) (exponent : Int) :
    ((scaled num den exponent).1 : ℚ) / (scaled num den exponent).2 = num / den / 2 ^ exponent := by
  change ((num * 2 ^ (-exponent).toNat : Nat) : ℚ) / ((den * 2 ^ exponent.toNat : Nat) : ℚ) = _
  rw [pow_eq_div, div_div_div_eq]
  push_cast
  rfl

theorem scaled_pos {den : Nat} (positive : 0 < den) (num : Nat) (exponent : Int) :
    0 < (scaled num den exponent).2 :=
  Nat.mul_pos positive (Nat.two_pow_pos _)

/-! ### The nearest integer -/

theorem div_le_roundHalfEven (num den : Nat) : num / den ≤ roundHalfEven num den := by
  simp only [roundHalfEven]
  split
  · exact Nat.le_refl _
  · split
    · exact Nat.le_succ _
    · split
      · exact Nat.le_refl _
      · exact Nat.le_succ _

theorem roundHalfEven_mono {num den num' den' : Nat} (positive : 0 < den) (positive' : 0 < den')
    (atMost : num * den' ≤ num' * den) : roundHalfEven num den ≤ roundHalfEven num' den' := by
  have floors : num / den ≤ num' / den' := by
    rw [Nat.le_div_iff_mul_le positive']
    refine Nat.le_of_mul_le_mul_right ?_ positive
    calc num / den * den' * den = num / den * den * den' := Nat.mul_right_comm _ _ _
      _ ≤ num * den' := Nat.mul_le_mul_right den' (Nat.div_mul_le_self num den)
      _ ≤ num' * den := atMost
  rcases Nat.lt_or_eq_of_le floors with below | same
  · calc roundHalfEven num den ≤ num / den + 1 := roundHalfEven_le num den
      _ ≤ num' / den' := below
      _ ≤ roundHalfEven num' den' := div_le_roundHalfEven num' den'
  · have rests : num % den * den' ≤ num' % den' * den := by
      have whole := Nat.div_add_mod num den
      have whole' := Nat.div_add_mod num' den'
      rw [← whole, ← whole', Nat.add_mul, Nat.add_mul, ← same,
        Nat.mul_right_comm den, Nat.mul_comm den den', Nat.mul_right_comm den'] at atMost
      exact Nat.le_of_add_le_add_left atMost
    have half (reached : den ≤ 2 * (num % den)) : den' ≤ 2 * (num' % den') := by
      refine Nat.le_of_mul_le_mul_right ?_ positive
      calc den' * den = den * den' := Nat.mul_comm den' den
        _ ≤ 2 * (num % den) * den' := Nat.mul_le_mul_right den' reached
        _ = 2 * (num % den * den') := Nat.mul_assoc 2 _ _
        _ ≤ 2 * (num' % den' * den) := Nat.mul_le_mul_left 2 rests
        _ = 2 * (num' % den') * den := (Nat.mul_assoc 2 _ _).symm
    have more (passed : den < 2 * (num % den)) : den' < 2 * (num' % den') := by
      refine Nat.lt_of_mul_lt_mul_right (a := den) ?_
      calc den' * den = den * den' := Nat.mul_comm den' den
        _ < 2 * (num % den) * den' := Nat.mul_lt_mul_of_pos_right passed positive'
        _ = 2 * (num % den * den') := Nat.mul_assoc 2 _ _
        _ ≤ 2 * (num' % den' * den) := Nat.mul_le_mul_left 2 rests
        _ = 2 * (num' % den') * den := (Nat.mul_assoc 2 _ _).symm
    by_cases below : 2 * (num % den) < den
    · have down : roundHalfEven num den = num / den := if_pos below
      rw [down, same]
      exact div_le_roundHalfEven num' den'
    · have reached := half (Nat.le_of_not_lt below)
      by_cases passed : den < 2 * (num % den)
      · have up : roundHalfEven num' den' = num' / den' + 1 :=
          (if_neg (Nat.not_lt_of_le reached)).trans (if_pos (more passed))
        rw [up, ← same]
        exact roundHalfEven_le num den
      · simp only [roundHalfEven]
        rw [if_neg below, if_neg passed, if_neg (Nat.not_lt_of_le reached), same]
        by_cases above : den' < 2 * (num' % den')
        · rw [if_pos above]
          split
          · exact Nat.le_succ _
          · exact Nat.le_refl _
        · rw [if_neg above]

/-! ### Exponents -/

theorem quotient_bounds {num den : Nat} (nonzero : num ≠ 0) (positive : 0 < den) :
    (2 : ℚ) ^ ((num.log2 : Int) - den.log2 - 1) ≤ num / den ∧
      (num / den : ℚ) < 2 ^ ((num.log2 : Int) - den.log2 + 1) := by
  have numPos : (0 : ℚ) < num := Nat.cast_pos.mpr (Nat.pos_of_ne_zero nonzero)
  have denPos : (0 : ℚ) < den := Nat.cast_pos.mpr positive
  have numLow : (2 : ℚ) ^ num.log2 ≤ num := by exact_mod_cast Nat.log2_self_le nonzero
  have numHigh : (num : ℚ) < 2 ^ (num.log2 + 1) := by exact_mod_cast Nat.lt_log2_self
  have denLow : (2 : ℚ) ^ den.log2 ≤ den := by
    exact_mod_cast Nat.log2_self_le (Nat.ne_of_gt positive)
  have denHigh : (den : ℚ) < 2 ^ (den.log2 + 1) := by exact_mod_cast Nat.lt_log2_self
  constructor
  · calc (2 : ℚ) ^ ((num.log2 : Int) - den.log2 - 1) = 2 ^ num.log2 / 2 ^ (den.log2 + 1) := by
          rw [← zpow_natCast, ← zpow_natCast, ← zpow_sub₀ two_ne_zero]
          congr 1
          push_cast
          omega
      _ ≤ num / den := div_le_div₀ numPos.le numLow denPos denHigh.le
  · calc (num / den : ℚ) < 2 ^ (num.log2 + 1) / 2 ^ den.log2 :=
          div_lt_div₀ numHigh denLow (by positivity) (by positivity)
      _ = 2 ^ ((num.log2 : Int) - den.log2 + 1) := by
          rw [← zpow_natCast, ← zpow_natCast, ← zpow_sub₀ two_ne_zero]
          congr 1
          push_cast
          omega

theorem le_scaled_iff {num den : Nat} (positive : 0 < den) (exponent : Int) (bound : Nat) :
    bound ≤ (scaled num den exponent).1 / (scaled num den exponent).2 ↔
      bound * 2 ^ exponent ≤ (num / den : ℚ) := by
  have bottom := scaled_pos positive num exponent
  rw [Nat.le_div_iff_mul_le bottom, ← le_div_iff₀ (zpow_pos two_pos exponent), ← scaled_eq,
    le_div_iff₀ (Nat.cast_pos.mpr bottom)]
  norm_cast

theorem pow_mul_zpow (count : Nat) (exponent : Int) :
    (2 : ℚ) ^ count * 2 ^ exponent = 2 ^ (count + exponent) := by
  rw [zpow_add₀ two_ne_zero, zpow_natCast]

theorem exponentFor_spec {num den : Nat} (nonzero : num ≠ 0) (positive : 0 < den) :
    leastExponent ≤ exponentFor num den ∧
    (num / den : ℚ) < 2 ^ 53 * 2 ^ exponentFor num den ∧
      (leastExponent < exponentFor num den →
        2 ^ 52 * 2 ^ exponentFor num den ≤ (num / den : ℚ)) := by
  obtain ⟨low, high⟩ := quotient_bounds nonzero positive
  have free : ∃ exponent, exponentFor num den = max leastExponent exponent ∧
      (num / den : ℚ) < 2 ^ 53 * 2 ^ exponent ∧ 2 ^ 52 * 2 ^ exponent ≤ (num / den : ℚ) := by
    refine ⟨_, rfl, ?_⟩
    split
    · rename_i short
      refine ⟨?_, ?_⟩
      · have missed := mt (le_scaled_iff positive _ mantissaBound).mpr (Nat.not_le_of_lt short)
        exact_mod_cast not_le.mp missed
      · rw [pow_mul_zpow]
        exact (zpow_le_zpow_right₀ one_le_two (by push_cast; omega)).trans low
    · rename_i long
      refine ⟨?_, ?_⟩
      · rw [pow_mul_zpow]
        exact high.trans_le (zpow_le_zpow_right₀ one_le_two (by push_cast; omega))
      · have reached := (le_scaled_iff positive _ mantissaBound).mp (Nat.le_of_not_lt long)
        refine le_trans (le_of_eq ?_) reached
        change _ = ((2 ^ 53 : Nat) : ℚ) * _
        rw [zpow_add₀ two_ne_zero]
        push_cast
        ring
  obtain ⟨exponent, found, below, above⟩ := free
  rw [found]
  refine ⟨le_max_left _ _, ?_, fun normal => ?_⟩
  · refine below.trans_le (mul_le_mul_of_nonneg_left ?_ (by positivity))
    exact zpow_le_zpow_right₀ one_le_two (le_max_right _ _)
  · rw [max_eq_right (by omega)]
    exact above

def mantissaFor (num den : Nat) : Nat :=
  roundHalfEven (scaled num den (exponentFor num den)).1 (scaled num den (exponentFor num den)).2

/-- A mantissa that rounding carries to 54 bits has the next exponent. -/
def carriedExponent (num den : Nat) : Int :=
  if mantissaFor num den = mantissaBound then exponentFor num den + 1 else exponentFor num den

theorem magnitude_bound (exponent : Int) :
    magnitude mantissaBound exponent = magnitude (2 ^ 52) (exponent + 1) := by
  have bound : mantissaBound = 2 ^ 52 * 2 := by decide
  rw [magnitude, magnitude, bound, zpow_add₀ two_ne_zero, zpow_one, Nat.cast_mul, Nat.cast_two]
  ring

theorem ofRatio_eq (negative : Bool) {num : Nat} (nonzero : num ≠ 0) (den : Nat) :
    ∃ mantissa, magnitude mantissa (carriedExponent num den) =
        magnitude (mantissaFor num den) (exponentFor num den) ∧
      ofRatio negative num den =
        if greatestExponent < carriedExponent num den then .infinite negative
        else .finite negative mantissa (carriedExponent num den) := by
  have carry : ofRatio negative num den =
      let carried := if mantissaFor num den = mantissaBound
        then (mantissaFor num den / 2, exponentFor num den + 1)
        else (mantissaFor num den, exponentFor num den)
      if greatestExponent < carried.2 then .infinite negative
      else .finite negative carried.1 carried.2 := by
    rw [ofRatio, if_neg nonzero]
    rfl
  rw [carry, carriedExponent]
  by_cases carried : mantissaFor num den = mantissaBound
  · rw [if_pos carried, if_pos carried]
    refine ⟨mantissaFor num den / 2, ?_, rfl⟩
    rw [carried, magnitude_bound]
    rfl
  · rw [if_neg carried, if_neg carried]
    exact ⟨mantissaFor num den, rfl, rfl⟩

theorem ofRatio_cases (negative : Bool) (num den : Nat) :
    ofRatio negative num den = .infinite negative ∨
      ∃ mantissa exponent, ofRatio negative num den = .finite negative mantissa exponent := by
  by_cases zero : num = 0
  · exact Or.inr ⟨0, leastExponent, if_pos zero⟩
  · obtain ⟨mantissa, _, whole⟩ := ofRatio_eq negative zero den
    rw [whole]
    split
    · exact Or.inl rfl
    · exact Or.inr ⟨mantissa, _, rfl⟩

theorem mantissaFor_le {num den : Nat} (nonzero : num ≠ 0) (positive : 0 < den) :
    mantissaFor num den ≤ mantissaBound := by
  obtain ⟨_, below, _⟩ := exponentFor_spec nonzero positive
  have floor : ¬ mantissaBound ≤ (scaled num den (exponentFor num den)).1 /
      (scaled num den (exponentFor num den)).2 := by
    rw [le_scaled_iff positive, not_le]
    exact_mod_cast below
  exact (roundHalfEven_le _ _).trans (Nat.lt_of_not_le floor)

theorem le_mantissaFor {num den : Nat} (nonzero : num ≠ 0) (positive : 0 < den)
    (normal : leastExponent < exponentFor num den) : 2 ^ 52 ≤ mantissaFor num den := by
  obtain ⟨_, _, above⟩ := exponentFor_spec nonzero positive
  refine le_trans ?_ (div_le_roundHalfEven _ _)
  rw [le_scaled_iff positive]
  exact_mod_cast above normal

theorem exponentFor_mono {num den num' den' : Nat} (nonzero : num ≠ 0) (positive : 0 < den)
    (nonzero' : num' ≠ 0) (positive' : 0 < den') (atMost : (num / den : ℚ) ≤ num' / den') :
    exponentFor num den ≤ exponentFor num' den' := by
  obtain ⟨_, _, above⟩ := exponentFor_spec nonzero positive
  obtain ⟨least, below, _⟩ := exponentFor_spec nonzero' positive'
  by_contra later
  have next : exponentFor num' den' + 1 ≤ exponentFor num den := not_le.mp later
  refine lt_irrefl (num / den : ℚ) ?_
  calc (num / den : ℚ) ≤ num' / den' := atMost
    _ < 2 ^ 53 * 2 ^ exponentFor num' den' := below
    _ = 2 ^ 52 * 2 ^ (exponentFor num' den' + 1) := by
      rw [zpow_add₀ two_ne_zero]
      ring
    _ ≤ 2 ^ 52 * 2 ^ exponentFor num den :=
      mul_le_mul_of_nonneg_left (zpow_le_zpow_right₀ one_le_two next) (by positivity)
    _ ≤ num / den := above (by omega)

theorem magnitude_mono {mantissa mantissa' : Nat} (atMost : mantissa ≤ mantissa')
    (exponent : Int) : magnitude mantissa exponent ≤ magnitude mantissa' exponent :=
  mul_le_mul_of_nonneg_right (Nat.cast_le.mpr atMost) (zpow_nonneg zero_le_two exponent)

theorem rounded_mono {num den num' den' : Nat} (nonzero : num ≠ 0) (positive : 0 < den)
    (nonzero' : num' ≠ 0) (positive' : 0 < den') (atMost : (num / den : ℚ) ≤ num' / den') :
    carriedExponent num den ≤ carriedExponent num' den' ∧
      magnitude (mantissaFor num den) (exponentFor num den) ≤
        magnitude (mantissaFor num' den') (exponentFor num' den') := by
  have small := mantissaFor_le nonzero positive
  have small' := mantissaFor_le nonzero' positive'
  have least := (exponentFor_spec nonzero positive).1
  rcases lt_or_eq_of_le (exponentFor_mono nonzero positive nonzero' positive' atMost) with
    earlier | same
  · have large := le_mantissaFor nonzero' positive' (least.trans_lt earlier)
    constructor
    · unfold carriedExponent
      split <;> split <;> omega
    · calc magnitude (mantissaFor num den) (exponentFor num den)
          ≤ magnitude mantissaBound (exponentFor num den) := magnitude_mono small _
        _ = magnitude (2 ^ 52) (exponentFor num den + 1) := magnitude_bound _
        _ ≤ magnitude (2 ^ 52) (exponentFor num' den') :=
          mul_le_mul_of_nonneg_left (zpow_le_zpow_right₀ one_le_two earlier) (Nat.cast_nonneg _)
        _ ≤ magnitude (mantissaFor num' den') (exponentFor num' den') := magnitude_mono large _
  · have mantissas : mantissaFor num den ≤ mantissaFor num' den' := by
      unfold mantissaFor
      rw [same]
      refine roundHalfEven_mono (scaled_pos positive _ _) (scaled_pos positive' _ _) ?_
      have scaled_le : ((scaled num den (exponentFor num' den')).1 : ℚ) /
          (scaled num den (exponentFor num' den')).2 ≤
          (scaled num' den' (exponentFor num' den')).1 /
            (scaled num' den' (exponentFor num' den')).2 := by
        rw [scaled_eq, scaled_eq]
        exact div_le_div_of_nonneg_right atMost (zpow_nonneg zero_le_two _)
      rw [div_le_div_iff₀ (Nat.cast_pos.mpr (scaled_pos positive _ _))
        (Nat.cast_pos.mpr (scaled_pos positive' _ _))] at scaled_le
      exact_mod_cast scaled_le
    constructor
    · unfold carriedExponent
      rw [same]
      by_cases carried : mantissaFor num den = mantissaBound
      · rw [if_pos carried, if_pos (by omega)]
      · rw [if_neg carried]
        split <;> omega
    · rw [same]
      exact magnitude_mono mantissas _

theorem magnitude_zero (exponent : Int) : magnitude 0 exponent = 0 := by
  rw [magnitude, Nat.cast_zero, zero_mul]

theorem magnitude_nonneg (mantissa : Nat) (exponent : Int) : 0 ≤ magnitude mantissa exponent :=
  mul_nonneg (Nat.cast_nonneg mantissa) (zpow_nonneg zero_le_two exponent)

/-- A quotient that is not larger than one that is finite when rounded is finite itself, and not
larger when rounded. -/
theorem ofRatio_mono (negative : Bool) {num den num' den' mantissa' : Nat} {exponent' : Int}
    (positive : 0 < den) (positive' : 0 < den') (atMost : (num / den : ℚ) ≤ num' / den')
    (found : ofRatio negative num' den' = .finite negative mantissa' exponent') :
    ∃ mantissa exponent, ofRatio negative num den = .finite negative mantissa exponent ∧
      magnitude mantissa exponent ≤ magnitude mantissa' exponent' := by
  by_cases nonzero : num = 0
  · refine ⟨0, leastExponent, if_pos nonzero, ?_⟩
    rw [magnitude_zero]
    exact magnitude_nonneg mantissa' exponent'
  · have nonzero' : num' ≠ 0 := by
      rintro rfl
      rw [Nat.cast_zero, zero_div] at atMost
      have above : (0 : ℚ) < num / den :=
        div_pos (Nat.cast_pos.mpr (Nat.pos_of_ne_zero nonzero)) (Nat.cast_pos.mpr positive)
      exact absurd atMost (not_le.mpr above)
    obtain ⟨mantissa, rounded, whole⟩ := ofRatio_eq negative nonzero den
    obtain ⟨_, rounded', whole'⟩ := ofRatio_eq negative nonzero' den'
    obtain ⟨exponents, magnitudes⟩ := rounded_mono nonzero positive nonzero' positive' atMost
    rw [found] at whole'
    split at whole'
    · cases whole'
    · rename_i inRange
      cases whole'
      refine ⟨mantissa, _, whole.trans (if_neg (by omega)), ?_⟩
      rw [rounded, rounded']
      exact magnitudes

/-! ### Quotients of numbers and their floors -/

theorem ofInt_cases {n : Int} (nonneg : 0 ≤ n) :
    ofInt n = .infinite false ∨ ∃ mantissa exponent, ofInt n = .finite false mantissa exponent := by
  rw [ofInt, decide_eq_false (not_lt.mpr nonneg)]
  exact ofRatio_cases false n.natAbs 1

theorem ofInt_mono {n n' : Int} (nonneg : 0 ≤ n) (atMost : n ≤ n') {mantissa' : Nat}
    {exponent' : Int} (found : ofInt n' = .finite false mantissa' exponent') :
    ∃ mantissa exponent, ofInt n = .finite false mantissa exponent ∧
      magnitude mantissa exponent ≤ magnitude mantissa' exponent' := by
  rw [ofInt, decide_eq_false (not_lt.mpr nonneg)]
  rw [ofInt, decide_eq_false (not_lt.mpr (nonneg.trans atMost))] at found
  refine ofRatio_mono false Nat.one_pos Nat.one_pos ?_ found
  rw [Nat.cast_one, div_one, div_one]
  exact Nat.cast_le.mpr (by omega)

theorem divide_cases (a b : Bool) (mantissa : Nat) (exponent power : Int) {divisor : Nat}
    (nonzero : divisor ≠ 0) :
    divide (.finite a mantissa exponent) (.finite b divisor power) = .infinite (a != b) ∨
      ∃ m e, divide (.finite a mantissa exponent) (.finite b divisor power) =
        .finite (a != b) m e := by
  rw [divide, if_neg nonzero]
  exact ofRatio_cases (a != b) _ _

theorem divided_eq (mantissa divisor : Nat) (exponent power : Int) :
    (((ratio mantissa (exponent - power)).1 : ℚ) /
      ((ratio mantissa (exponent - power)).2 * divisor : Nat)) =
      magnitude mantissa exponent / magnitude divisor power := by
  rw [Nat.cast_mul, ← div_div, ratio_eq, magnitude, magnitude, magnitude, zpow_sub₀ two_ne_zero]
  ring

theorem divided_pos (mantissa : Nat) {divisor : Nat} (exponent : Int) (nonzero : divisor ≠ 0) :
    0 < (ratio mantissa exponent).2 * divisor :=
  Nat.mul_pos (Nat.two_pow_pos _) (Nat.pos_of_ne_zero nonzero)

theorem divide_mono {mantissa mantissa' divisor : Nat} {exponent exponent' power : Int}
    (atMost : magnitude mantissa exponent ≤ magnitude mantissa' exponent') (nonzero : divisor ≠ 0)
    {m' : Nat} {e' : Int}
    (found : divide (.finite false mantissa' exponent') (.finite false divisor power) =
      .finite false m' e') :
    ∃ m e, divide (.finite false mantissa exponent) (.finite false divisor power) =
      .finite false m e ∧ magnitude m e ≤ magnitude m' e' := by
  have ordered : (((ratio mantissa (exponent - power)).1 : ℚ) /
      ((ratio mantissa (exponent - power)).2 * divisor : Nat)) ≤
      ((ratio mantissa' (exponent' - power)).1 : ℚ) /
        ((ratio mantissa' (exponent' - power)).2 * divisor : Nat) := by
    rw [divided_eq, divided_eq]
    exact div_le_div_of_nonneg_right atMost (magnitude_nonneg divisor power)
  rw [divide, if_neg nonzero] at found ⊢
  exact ofRatio_mono false (divided_pos mantissa _ nonzero) (divided_pos mantissa' _ nonzero)
    ordered found

theorem floor?_mono {mantissa mantissa' : Nat} {exponent exponent' : Int}
    (atMost : magnitude mantissa exponent ≤ magnitude mantissa' exponent') :
    ∃ low high : Nat, floor? (.finite false mantissa exponent) = some (low : Int) ∧
      floor? (.finite false mantissa' exponent') = some (high : Int) ∧ low ≤ high := by
  refine ⟨(ratio mantissa exponent).1 / (ratio mantissa exponent).2,
    (ratio mantissa' exponent').1 / (ratio mantissa' exponent').2, rfl, rfl, ?_⟩
  have bottom : 0 < (ratio mantissa exponent).2 := Nat.two_pow_pos _
  have bottom' : 0 < (ratio mantissa' exponent').2 := Nat.two_pow_pos _
  rw [Nat.le_div_iff_mul_le bottom', ← Nat.cast_le (α := ℚ), Nat.cast_mul,
    ← le_div_iff₀ (Nat.cast_pos.mpr bottom'), ratio_eq]
  refine le_trans Nat.cast_div_le ?_
  rw [ratio_eq]
  exact atMost

end SavingsSite.Binary64
