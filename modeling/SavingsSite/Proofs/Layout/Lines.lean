import SavingsSite.Layout.Measurer
import SavingsSite.Proofs.Decimal.Range
import SavingsSite.Proofs.Text.Filling

set_option autoImplicit false

/-! The lines of an answer. They fit the column and together hold everything of the answer that can
be seen, so the height that is measured for an answer has room for it. -/

namespace SavingsSite

/-- A width that is a number and not below `2 ^ -500`. -/
def Length.Ample : Length → Prop
  | .whole _ => True
  | .real (.finite _ mantissa exponent) => -500 ≤ exponent + mantissa.log2
  | .real (.infinite _) => True
  | .real .undefined => False

namespace TextMeasurer

open Text (visible wrap)

theorem length_flatten_le {α : Type} {width : Nat} {lines : List (List α)}
    (fits : ∀ line ∈ lines, line.length ≤ width) :
    lines.flatten.length ≤ width * lines.length := by
  induction lines with
  | nil => exact Nat.zero_le _
  | cons line rest ih =>
      rw [List.forall_mem_cons] at fits
      have later := ih fits.2
      rw [List.flatten_cons, List.length_append, List.length_cons, Nat.mul_succ]
      omega

theorem length_visible_le (column : Text.Column) (text : String) :
    (visible text.toList).length ≤ column.width * linesIn column text := by
  calc (visible text.toList).length
      = (visible (wrap column text.toList).flatten).length := by rw [Text.visible_wrap]
    _ ≤ (wrap column text.toList).flatten.length := List.length_filter_le _ _
    _ ≤ column.width * (wrap column text.toList).length :=
      length_flatten_le fun line member => (Text.length_of_mem_wrap member).2
    _ ≤ column.width * linesIn column text := Nat.mul_le_mul_left _ (Nat.le_max_right 1 _)

/-! ### Measurers with a column -/

theorem quotient_finite {m : TextMeasurer} (digits : m.contentWidth.natAbs.log2 < 512)
    (ample : m.glyphWidth.Ample) :
    ∃ negative mantissa exponent, m.quotient = .ok (.finite negative mantissa exponent) := by
  have positive := m.glyphWidth_pos
  cases glyphAt : m.glyphWidth with
  | whole glyph =>
      rw [glyphAt, Length.isNonpositive, decide_eq_false_iff_not] at positive
      have whole : m.contentWidth.toNat = m.contentWidth.natAbs := by
        have widthPositive := m.contentWidth_pos
        omega
      obtain ⟨mantissa, exponent, ratio, _⟩ := Binary64.ofRatio_finite false
        m.contentWidth.toNat glyph.toNat (by omega) (by rw [whole]; omega)
      refine ⟨false, mantissa, exponent, ?_⟩
      simp only [quotient, glyphAt, ratio]
  | real glyph =>
      obtain ⟨sign, mantissa, exponent, width, bounded, small⟩ := Binary64.ofInt_finite digits
      rw [glyphAt] at ample positive
      cases glyph with
      | undefined => exact absurd ample id
      | infinite negative =>
          refine ⟨sign != negative, 0, Binary64.leastExponent, ?_⟩
          simp only [quotient, glyphAt, width, Binary64.divide]
      | finite negative divisor power =>
          simp only [Length.isNonpositive, Binary64.isNonpositive, Bool.or_eq_false_iff,
            decide_eq_false_iff_not] at positive
          obtain ⟨side, top, last, divided⟩ :=
            Binary64.divide_finite sign negative bounded small positive.2 ample
          refine ⟨side, top, last, ?_⟩
          simp only [quotient, glyphAt, width, divided]

theorem exists_column {m : TextMeasurer} (digits : m.contentWidth.natAbs.log2 < 512)
    (ample : m.glyphWidth.Ample) : ∃ column, m.column = .ok column := by
  obtain ⟨negative, mantissa, exponent, found⟩ := quotient_finite digits ample
  rw [column, found]
  exact ⟨_, rfl⟩

/-! ### The lines of an answer -/

/-- Every line has at least one character and fits the column, the lines hold what can be seen of
the text in its order, and so the lines that are counted have room for it, and the height has room
for as many lines. A measurer has such a column unless its widths are out of range, and without one
nothing is measured. -/
theorem lines_hold_text (m : TextMeasurer) (text : String) :
    (m.contentWidth.natAbs.log2 < 512 → m.glyphWidth.Ample → ∃ column, m.column = .ok column) ∧
    (∀ fault, m.column = .error fault → m.lineCount text = .error fault ∧
      ∀ question, m.height ⟨question, text⟩ = .error fault) ∧
    ∀ column, m.column = .ok column →
      let lines := wrap column text.toList
      (∀ line ∈ lines, 1 ≤ line.length ∧ line.length ≤ column.width) ∧
      visible lines.flatten = visible text.toList ∧
      ∃ count, m.lineCount text = .ok count ∧ count = max 1 lines.length ∧
        (visible text.toList).length ≤ column.width * count ∧
        ∀ question, m.height ⟨question, text⟩ = .ok (count * m.lineHeight + m.padding) := by
  have counted : m.lineCount text = m.column.map (linesIn · text) := rfl
  have measured (question : String) : m.height ⟨question, text⟩ =
    (m.lineCount text).map fun lines => lines * m.lineHeight + m.padding := rfl
  refine ⟨exists_column, ?_, ?_⟩
  · intro fault failed
    rw [failed] at counted
    refine ⟨counted, fun question => ?_⟩
    rw [measured, counted]
    rfl
  · intro column fits lines
    rw [fits] at counted
    refine ⟨fun line member => Text.length_of_mem_wrap member,
      Text.visible_wrap column text.toList, linesIn column text, counted, rfl,
      length_visible_le column text, fun question => ?_⟩
    rw [measured, counted]
    rfl

def narrow : TextMeasurer where
  contentWidth := 30
  glyphWidth := .whole 10
  lineHeight := 20
  padding := 5
  contentWidth_pos := by decide
  glyphWidth_pos := by decide
  lineHeight_nonneg := by decide
  padding_nonneg := by decide

/-- Eight characters that can be seen need three lines of three, whatever stands around them. -/
theorem lines_hold_text_narrow :
    ∃ column, narrow.column = .ok column ∧
      ∃ count, narrow.lineCount "\t re-enter \n" = .ok count ∧ 3 ≤ count := by
  obtain ⟨exists_column, _, holds⟩ := lines_hold_text narrow "\t re-enter \n"
  obtain ⟨column, fits⟩ := exists_column (by decide) trivial
  have threeWide : narrow.column = .ok ⟨3, by decide⟩ := rfl
  obtain ⟨_, _, count, counted, _, room, _⟩ := holds column fits
  have seen : (visible "\t re-enter \n".toList).length = 8 := by decide +kernel
  cases fits.symm.trans threeWide
  change _ ≤ 3 * count at room
  exact ⟨_, fits, count, counted, by omega⟩

end TextMeasurer

end SavingsSite
