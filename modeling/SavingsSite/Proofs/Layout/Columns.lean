import SavingsSite.Proofs.Decimal.Floor
import SavingsSite.Proofs.Layout.Lines

set_option autoImplicit false

/-! Columns between whole widths. The content width is divided by the width of a glyph as binary
numbers and rounded before the floor is taken, and still a column has as many characters as fit. -/

namespace SavingsSite

/-- A width of a whole number of pixels, exact or as a binary number. -/
def Length.IsWhole (pixels : Nat) : Length → Prop
  | .whole value => value = pixels
  | .real value => value.toInt? = some (pixels : Int)

theorem Length.IsWhole.pos {length : Length} {pixels : Nat} (whole : length.IsWhole pixels)
    (positive : length.isNonpositive = false) : 0 < pixels := by
  cases length with
  | whole value =>
      rw [isNonpositive, decide_eq_false_iff_not] at positive
      have spelled : value = pixels := whole
      omega
  | real value =>
      obtain ⟨_, _, _, _, above⟩ := Binary64.exists_of_toInt? positive whole
      exact above

namespace TextMeasurer

theorem quotient_floor {m : TextMeasurer} {width glyph : Nat} (content : m.contentWidth = width)
    (whole : m.glyphWidth.IsWhole glyph) (widthSmall : width < 2 ^ 53)
    (glyphSmall : glyph < 2 ^ 53) :
    ∃ mantissa exponent, m.quotient = .ok (.finite false mantissa exponent) ∧
      Binary64.floor? (.finite false mantissa exponent) = some ((width / glyph : Nat) : Int) := by
  have widthPos : 0 < width := by
    have positive := m.contentWidth_pos
    omega
  have glyphPos := whole.pos m.glyphWidth_pos
  have positive := m.glyphWidth_pos
  unfold TextMeasurer.quotient
  cases glyphAt : m.glyphWidth with
  | whole value =>
      rw [glyphAt] at whole
      have spelled : value = glyph := whole
      have small : Binary64.SmallQuotient width glyph width glyph :=
        ⟨glyphPos, widthPos, widthSmall, glyphPos, glyphSmall, rfl⟩
      obtain ⟨mantissa, exponent, found, floor⟩ := small.floor_ofRatio
      simp only [content, spelled, Int.toNat_natCast, found]
      exact ⟨mantissa, exponent, rfl, floor⟩
  | real value =>
      rw [glyphAt] at positive whole
      obtain ⟨divided, power, rfl, glyphIs, _⟩ := Binary64.exists_of_toInt? positive whole
      obtain ⟨mantissa, exponent, read, widthIs⟩ := Binary64.ofInt_exact widthPos widthSmall
      obtain ⟨m', e', found, floor⟩ := Binary64.floor_divide widthIs widthPos widthSmall glyphIs
        glyphPos glyphSmall
      simp only [content, read, found]
      exact ⟨m', e', rfl, floor⟩

theorem column_of_floor {m : TextMeasurer} {q : Binary64} {floor : Nat}
    (divided : m.quotient = .ok q) (floored : q.floor? = some (floor : Int)) :
    ∃ column, m.column = .ok column ∧ column.width = max 1 floor := by
  rw [column, divided]
  refine ⟨_, rfl, ?_⟩
  simp only [floored, Option.getD_some, Int.toNat_natCast]

/-- Between whole widths below `2 ^ 53` a column has as many characters as the content holds glyphs,
and one if it holds none. So they fit when one glyph does, and one more never does. -/
theorem column_of_whole_widths (m : TextMeasurer) (width glyph : Nat)
    (content : m.contentWidth = width) (whole : m.glyphWidth.IsWhole glyph)
    (widthSmall : width < 2 ^ 53) (glyphSmall : glyph < 2 ^ 53) :
    ∃ column, m.column = .ok column ∧ column.width = max 1 (width / glyph) ∧
      (glyph ≤ width → column.width * glyph ≤ width) ∧ width < (column.width + 1) * glyph := by
  have glyphPos := whole.pos m.glyphWidth_pos
  obtain ⟨_, _, divided, floored⟩ := quotient_floor content whole widthSmall glyphSmall
  obtain ⟨column, found, counted⟩ := column_of_floor divided floored
  refine ⟨column, found, counted, ?_, ?_⟩
  · intro fits
    rw [counted, Nat.max_eq_right (Nat.div_pos fits glyphPos)]
    exact Nat.div_mul_le_self width glyph
  · rw [counted]
    apply Nat.lt_mul_of_div_lt _ glyphPos
    omega

/-- One pixel more would hold one glyph more, so the quotient is just below an integer. -/
theorem column_of_whole_widths_near :
    let m : TextMeasurer :=
      { contentWidth := 9007199254740990
        glyphWidth := .real (Binary64.ofInt 20394401)
        lineHeight := 26
        padding := 24
        contentWidth_pos := by decide
        glyphWidth_pos := by decide +kernel
        lineHeight_nonneg := by decide
        padding_nonneg := by decide }
    m.glyphWidth.IsWhole 20394401 ∧ 9007199254740990 < 2 ^ 53 ∧ 20394401 < 2 ^ 53 ∧
      441650591 * 20394401 = 9007199254740990 + 1 ∧
      ∃ column, m.column = .ok column ∧ column.width = 441650590 := by
  intro m
  have whole : m.glyphWidth.IsWhole 20394401 :=
    (by decide +kernel : (Binary64.ofInt 20394401).toInt? = some 20394401)
  obtain ⟨column, found, counted, _⟩ := column_of_whole_widths m 9007199254740990 20394401 rfl whole
    (by decide) (by decide)
  exact ⟨whole, by decide, by decide, by decide, column, found, counted⟩

end TextMeasurer

end SavingsSite
