import SavingsSite.Proofs.Decimal.Order
import SavingsSite.Proofs.Layout.Heights
import SavingsSite.Proofs.Text.Widening

set_option autoImplicit false

/-! Heights in a wider column. A wider content has no narrower column, but an answer can need more
lines in it: a word that was broken before now starts a line of its own. Such words, and blanks at
which no line breaks or with which the answer starts, bound how many lines are added. -/

namespace SavingsSite

namespace TextMeasurer

open Text (wrap widening)

/-! ### Wider contents -/

/-- Two measurers whose answers differ in the width of their content. -/
structure Widened (narrow wide : TextMeasurer) : Prop where
  narrower : narrow.contentWidth ≤ wide.contentWidth
  glyph : narrow.glyphWidth = wide.glyphWidth
  line : narrow.lineHeight = wide.lineHeight
  padding : narrow.padding = wide.padding

variable {narrow wide : TextMeasurer}

theorem Widened.quotient (widened : Widened narrow wide) {q : Binary64}
    (divided : wide.quotient = .ok q) :
    ∃ mantissa exponent mantissa' exponent', q = .finite false mantissa' exponent' ∧
      narrow.quotient = .ok (.finite false mantissa exponent) ∧
      Binary64.magnitude mantissa exponent ≤ Binary64.magnitude mantissa' exponent' := by
  have positive := wide.glyphWidth_pos
  have narrower := widened.narrower
  have narrowPositive := narrow.contentWidth_pos
  unfold TextMeasurer.quotient at divided ⊢
  rw [widened.glyph]
  cases glyphAt : wide.glyphWidth with
  | whole glyph =>
      rw [glyphAt] at positive divided
      rw [Length.isNonpositive, decide_eq_false_iff_not] at positive
      simp only at divided ⊢
      rcases Binary64.ofRatio_cases false wide.contentWidth.toNat glyph.toNat with
        overflow | ⟨mantissa', exponent', ratio⟩
      · rw [overflow] at divided
        cases divided
      · have atMost : ((narrow.contentWidth.toNat : ℚ) / glyph.toNat) ≤
            wide.contentWidth.toNat / glyph.toNat :=
          div_le_div_of_nonneg_right (Nat.cast_le.mpr (by omega)) (Nat.cast_nonneg _)
        obtain ⟨mantissa, exponent, found, ordered⟩ :=
          Binary64.ofRatio_mono false (by omega) (by omega) atMost ratio
        rw [ratio] at divided
        rw [found]
        cases divided
        exact ⟨mantissa, exponent, mantissa', exponent', rfl, rfl, ordered⟩
  | real glyph =>
      rw [glyphAt] at positive divided
      simp only at divided ⊢
      rcases Binary64.ofInt_cases (le_of_lt wide.contentWidth_pos) with
        overflow | ⟨mantissa', exponent', width'⟩
      · rw [overflow] at divided
        cases divided
      · obtain ⟨mantissa, exponent, width, ordered⟩ :=
          Binary64.ofInt_mono (le_of_lt narrowPositive) narrower width'
        rw [width'] at divided
        rw [width]
        simp only at divided ⊢
        cases glyph with
        | undefined => cases divided
        | infinite negative =>
            obtain rfl : negative = false := positive
            cases divided
            exact ⟨_, _, _, _, rfl, rfl, le_refl _⟩
        | finite negative divisor power =>
            rw [Length.isNonpositive, Binary64.isNonpositive, Bool.or_eq_false_iff,
              decide_eq_false_iff_not] at positive
            obtain ⟨rfl, nonzero⟩ := positive
            rcases Binary64.divide_cases false false mantissa' exponent' power nonzero with
              overflow | ⟨_, _, found⟩
            · rw [overflow] at divided
              cases divided
            · obtain ⟨_, _, smaller, less⟩ := Binary64.divide_mono ordered nonzero found
              rw [found] at divided
              rw [smaller]
              cases divided
              exact ⟨_, _, _, _, rfl, rfl, less⟩

theorem Widened.column (widened : Widened narrow wide) {column : Text.Column}
    (fits : wide.column = .ok column) :
    ∃ smaller, narrow.column = .ok smaller ∧ smaller.width ≤ column.width := by
  rw [TextMeasurer.column] at fits
  cases divided : wide.quotient with
  | error fault =>
      rw [divided] at fits
      cases fits
  | ok q =>
      obtain ⟨_, _, _, _, rfl, found, ordered⟩ := widened.quotient divided
      obtain ⟨low, high, floor, floor', atMost⟩ := Binary64.floor?_mono ordered
      rw [divided] at fits
      cases fits
      refine ⟨_, by rw [TextMeasurer.column, found]; rfl, ?_⟩
      simp only [floor, floor', Option.getD_some, Int.toNat_natCast]
      omega

theorem linesIn_le_of_wider {narrow wide : Text.Column} (narrower : narrow.width ≤ wide.width)
    (text : String) : linesIn wide text ≤
      linesIn narrow text + widening narrow.width wide.width text.toList := by
  have lines := Text.length_wrap_le_of_wider narrower text.toList
  unfold linesIn
  omega

/-- A measurer whose content is wider than that of another has a column that is no narrower, if it has
one. It measures at most one line more for each word that only the wider column holds whole, for each
blank at which no line breaks and for a gap in front of the answer, and no more lines without them. -/
theorem lines_le_of_wider (widened : Widened narrow wide) (text : String) :
    (∀ fault, wide.column = .error fault → wide.lineCount text = .error fault ∧
      ∀ question, wide.height ⟨question, text⟩ = .error fault) ∧
    ∀ column, wide.column = .ok column →
      ∃ smaller, narrow.column = .ok smaller ∧ smaller.width ≤ column.width ∧
        let more := widening smaller.width column.width text.toList
        ∃ count counted, narrow.lineCount text = .ok count ∧ wide.lineCount text = .ok counted ∧
          counted ≤ count + more ∧
          ∀ question, ∃ height measured, narrow.height ⟨question, text⟩ = .ok height ∧
            wide.height ⟨question, text⟩ = .ok measured ∧
            measured ≤ height + more * wide.lineHeight := by
  constructor
  · intro fault failed
    exact ⟨(measured_of_fault failed ⟨text, text⟩).1,
      fun question => (measured_of_fault failed ⟨question, text⟩).2⟩
  · intro column fits
    obtain ⟨smaller, found, narrower⟩ := widened.column fits
    have lines := linesIn_le_of_wider narrower text
    refine ⟨smaller, found, narrower, _, _, lineCount_of_column found text,
      lineCount_of_column fits text, lines, fun question => ?_⟩
    refine ⟨_, _, height_of_column found _, height_of_column fits _, ?_⟩
    have higher := height_le_of_lines wide lines
    rw [Nat.cast_add, Int.add_mul] at higher
    rw [widened.line, widened.padding]
    change linesIn column text * wide.lineHeight + wide.padding ≤
      linesIn smaller text * wide.lineHeight + wide.padding + _
    omega

/-- Glyphs of one pixel, so that a column has as many characters as the content is wide. -/
def onePixel (width : Nat) (positive : 0 < width) : TextMeasurer where
  contentWidth := width
  glyphWidth := .whole 1
  lineHeight := 12
  padding := 6
  contentWidth_pos := Int.natCast_pos.mpr positive
  glyphWidth_pos := by decide
  lineHeight_nonneg := by decide
  padding_nonneg := by decide

theorem widened_onePixel {narrow wide : Nat} (positive : 0 < narrow) (atMost : narrow ≤ wide) :
    Widened (onePixel narrow positive) (onePixel wide (Nat.lt_of_lt_of_le positive atMost)) where
  narrower := Int.ofNat_le.mpr atMost
  glyph := rfl
  line := rfl
  padding := rfl

/-- A word of six characters is broken in a column of five. In one of six it has a line of its own,
and the letters around it have theirs. -/
theorem lines_le_of_wider_word :
    Widened (onePixel 5 (by decide)) (onePixel 6 (by decide)) ∧
      widening 5 6 "a bbbbbb c".toList = 1 ∧
      ∃ count counted, (onePixel 5 (by decide)).lineCount "a bbbbbb c" = .ok count ∧
        (onePixel 6 (by decide)).lineCount "a bbbbbb c" = .ok counted ∧ counted ≤ count + 1 := by
  have widened := widened_onePixel (by decide : 0 < 5) (by decide : 5 ≤ 6)
  have one : widening 5 6 "a bbbbbb c".toList = 1 := by decide +kernel
  obtain ⟨_, counts⟩ := lines_le_of_wider widened "a bbbbbb c"
  obtain ⟨smaller, found, _, count, counted, first, second, atMost, _⟩ := counts ⟨6, by decide⟩ rfl
  cases (show (onePixel 5 (by decide)).column = .ok ⟨5, by decide⟩ from rfl).symm.trans found
  refine ⟨widened, one, count, counted, first, second, ?_⟩
  rw [← one]
  exact atMost

/-- Each of the three causes alone adds a line in a column that is wider by one character: a long
word, a gap in front of the answer, and a no-break space. -/
theorem wider_is_higher :
    (onePixel 5 (by decide)).height ⟨"Q", "a bbbbbb c"⟩ = .ok 30 ∧
      (onePixel 6 (by decide)).height ⟨"Q", "a bbbbbb c"⟩ = .ok 42 ∧
      (onePixel 5 (by decide)).height ⟨"Q", "    ab cd"⟩ = .ok 18 ∧
      (onePixel 6 (by decide)).height ⟨"Q", "    ab cd"⟩ = .ok 30 ∧
      (onePixel 1 (by decide)).height ⟨"Q", "\u00a0 ."⟩ = .ok 18 ∧
      (onePixel 2 (by decide)).height ⟨"Q", "\u00a0 ."⟩ = .ok 30 := by
  decide +kernel

end TextMeasurer

end SavingsSite
