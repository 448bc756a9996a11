import SavingsSite.Proofs.Layout.Lines
import SavingsSite.Proofs.Text.Extension
import SavingsSite.Proofs.Text.Packing

set_option autoImplicit false

/-! How high an answer is measured. No two lines in a row would fit one line, so the height is not
far above what the text needs, and words behind an answer never make it lower. -/

namespace SavingsSite.TextMeasurer

open Text (wrap isBlank expandTabs spacedText EndsShown)

theorem lineCount_of_column {m : TextMeasurer} {column : Text.Column}
    (fits : m.column = .ok column) (text : String) :
    m.lineCount text = .ok (linesIn column text) := by
  rw [lineCount, fits]
  rfl

theorem height_of_column {m : TextMeasurer} {column : Text.Column}
    (fits : m.column = .ok column) (item : FaqItem) :
    m.height item = .ok (linesIn column item.answer * m.lineHeight + m.padding) := by
  rw [height, lineCount_of_column fits]
  rfl

theorem measured_of_fault {m : TextMeasurer} {fault : QuotientFault}
    (failed : m.column = .error fault) (item : FaqItem) :
    m.lineCount item.answer = .error fault ∧ m.height item = .error fault := by
  have counted : m.lineCount item.answer = .error fault := by
    rw [lineCount, failed]
    rfl
  refine ⟨counted, ?_⟩
  rw [height, counted]
  rfl

theorem height_le_of_lines (m : TextMeasurer) {count more : Nat} (atMost : count ≤ more) :
    count * m.lineHeight + m.padding ≤ more * m.lineHeight + m.padding := by
  have lines : (count : Int) ≤ more := Int.ofNat_le.mpr atMost
  exact Int.add_le_add_right (Int.mul_le_mul_of_nonneg_right lines m.lineHeight_nonneg) _

/-! ### Lines in pairs -/

theorem linesIn_pairs_le (column : Text.Column) (text : String) :
    linesIn column text / 2 * (column.width + 1) ≤ (expandTabs 0 text.toList).length := by
  have pairs := (Text.laid_wrap column text.toList).pairs_le
  have half : linesIn column text / 2 = (wrap column text.toList).length / 2 := by
    unfold linesIn
    omega
  rw [half, ← Text.length_spacedText]
  exact pairs

/-- Two lines in a row, together with the blanks dropped between them, are wider than the column. So
each second line stands for more than one column of the text, and the height has at most one line
more than twice the full lines that the text takes up with its tabs expanded. -/
theorem two_lines_exceed_column (m : TextMeasurer) (text : String) (column : Text.Column)
    (fits : m.column = .ok column) :
    let lines := wrap column text.toList
    let length := (expandTabs 0 text.toList).length
    (∀ front first next back, lines = front ++ first :: next :: back →
      ∃ before gap after, spacedText text.toList = before ++ (first ++ (gap ++ (next ++ after))) ∧
        gap.all isBlank = true ∧ column.width < first.length + gap.length + next.length) ∧
    ∃ count, m.lineCount text = .ok count ∧ count / 2 * (column.width + 1) ≤ length ∧
      ∀ question, ∃ height, m.height ⟨question, text⟩ = .ok height ∧
        height ≤ (2 * (length / (column.width + 1)) + 1 : Nat) * m.lineHeight + m.padding := by
  intro lines length
  have pairs : linesIn column text / 2 * (column.width + 1) ≤ length :=
    linesIn_pairs_le column text
  refine ⟨?_, _, lineCount_of_column fits text, pairs, fun question => ?_⟩
  · intro front first next back cut
    have laid := Text.laid_wrap column text.toList
    rw [show wrap column text.toList = front ++ first :: next :: back from cut] at laid
    exact laid.neighbours
  · refine ⟨_, height_of_column fits _, height_le_of_lines m ?_⟩
    have halves : linesIn column text / 2 ≤ length / (column.width + 1) :=
      (Nat.le_div_iff_mul_le (Nat.succ_pos column.width)).mpr pairs
    change linesIn column text ≤ _
    omega

/-- A word with a hyphen between spaces, in columns of three characters. -/
theorem two_lines_exceed_column_narrow :
    ∃ column, narrow.column = .ok column ∧
      ∃ count, narrow.lineCount "\t re-enter \n" = .ok count ∧ count / 2 * 4 ≤ 19 := by
  have threeWide : narrow.column = .ok ⟨3, by decide⟩ := rfl
  obtain ⟨_, count, counted, pairs, _⟩ :=
    two_lines_exceed_column narrow "\t re-enter \n" _ threeWide
  exact ⟨_, threeWide, count, counted, pairs⟩

/-! ### Words behind an answer -/

/-- Words behind a text that ends with something to be seen never make it shorter on the screen. A
measurer without a column measures neither text. -/
theorem lines_le_of_words_added (m : TextMeasurer) (text more : String)
    (shown : EndsShown text.toList) :
    (∀ fault, m.column = .error fault →
      m.lineCount text = .error fault ∧ m.lineCount (text ++ " " ++ more) = .error fault ∧
      ∀ question, m.height ⟨question, text⟩ = .error fault ∧
        m.height ⟨question, text ++ " " ++ more⟩ = .error fault) ∧
    ∀ column, m.column = .ok column →
      ∃ count longer, m.lineCount text = .ok count ∧
        m.lineCount (text ++ " " ++ more) = .ok longer ∧ count ≤ longer ∧
        ∀ question, ∃ height higher, m.height ⟨question, text⟩ = .ok height ∧
          m.height ⟨question, text ++ " " ++ more⟩ = .ok higher ∧ height ≤ higher := by
  constructor
  · intro fault failed
    refine ⟨(measured_of_fault failed ⟨text, text⟩).1, (measured_of_fault failed ⟨text, _⟩).1,
      fun question => ⟨(measured_of_fault failed _).2, (measured_of_fault failed _).2⟩⟩
  · intro column fits
    have lines : linesIn column text ≤ linesIn column (text ++ " " ++ more) := by
      have whole : (text ++ " " ++ more).toList = text.toList ++ ' ' :: more.toList := by
        rw [String.toList_append, String.toList_append, List.append_assoc]
        rfl
      have wrapped := Text.length_wrap_le_append shown column more.toList
      rw [← whole] at wrapped
      unfold linesIn
      omega
    refine ⟨_, _, lineCount_of_column fits text, lineCount_of_column fits _, lines,
      fun question => ?_⟩
    exact ⟨_, _, height_of_column fits _, height_of_column fits _, height_le_of_lines m lines⟩

/-- The words fill up the last line of a word that is broken over three of them. -/
theorem lines_le_of_words_added_narrow :
    EndsShown "well-being".toList ∧
      ∃ count longer, narrow.lineCount "well-being" = .ok count ∧
        narrow.lineCount "well-being a\tb" = .ok longer ∧ count ≤ longer := by
  have shown : EndsShown "well-being".toList := ⟨'g', rfl, rfl⟩
  obtain ⟨_, counted⟩ := lines_le_of_words_added narrow "well-being" "a\tb" shown
  obtain ⟨count, longer, first, second, atMost, _⟩ := counted ⟨3, by decide⟩ rfl
  exact ⟨shown, count, longer, first, second, atMost⟩

end SavingsSite.TextMeasurer
