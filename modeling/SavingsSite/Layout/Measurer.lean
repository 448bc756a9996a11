import SavingsSite.Content.Faq
import SavingsSite.Decimal.Binary64
import SavingsSite.Text.Wrap

set_option autoImplicit false

/-! The height of an answer, estimated from its text: the answer is wrapped to the characters
that fit the content width, and each line has one height. -/

namespace SavingsSite

/-- A length in pixels, exact or as a binary number. -/
inductive Length where
  | whole (value : Int)
  | real (value : Binary64)
  deriving DecidableEq, Repr

def Length.isNonpositive : Length → Bool
  | whole value => value ≤ 0
  | real value => value.isNonpositive

inductive MeasurerFault where
  | widthNotPositive
  | heightNegative
  deriving DecidableEq, Repr

def MeasurerFault.message : MeasurerFault → String
  | widthNotPositive => "content width and glyph width must be positive"
  | heightNegative => "line height and padding must not be negative"

inductive QuotientFault where
  | widthTooLarge
  | quotientTooLarge
  | infinite
  | undefined
  deriving DecidableEq, Repr

def QuotientFault.message : QuotientFault → String
  | widthTooLarge => "int too large to convert to float"
  | quotientTooLarge => "integer division result too large for a float"
  | infinite => "cannot convert float infinity to integer"
  | undefined => "cannot convert float NaN to integer"

/-- The dimensions of an answer block: its column, the average glyph, a line and the padding
below the text. -/
structure TextMeasurer where
  contentWidth : Int
  glyphWidth : Length
  lineHeight : Int
  padding : Int
  contentWidth_pos : 0 < contentWidth
  glyphWidth_pos : glyphWidth.isNonpositive = false
  lineHeight_nonneg : 0 ≤ lineHeight
  padding_nonneg : 0 ≤ padding

namespace TextMeasurer

def make (contentWidth : Int) (glyphWidth : Length) (lineHeight padding : Int) :
    Except MeasurerFault TextMeasurer :=
  if widths : 0 < contentWidth ∧ glyphWidth.isNonpositive = false then
    if heights : 0 ≤ lineHeight ∧ 0 ≤ padding then
      .ok ⟨contentWidth, glyphWidth, lineHeight, padding,
        widths.1, widths.2, heights.1, heights.2⟩
    else .error .heightNegative
  else .error .widthNotPositive

/-- The answers of the site: a column of 720 pixels, glyphs of 8, lines of 26 and 24 below. -/
def standard : TextMeasurer where
  contentWidth := 720
  glyphWidth := .real (Binary64.ofInt 8)
  lineHeight := 26
  padding := 24
  contentWidth_pos := by decide
  glyphWidth_pos := by decide +kernel
  lineHeight_nonneg := by decide
  padding_nonneg := by decide

def quotient (m : TextMeasurer) : Except QuotientFault Binary64 :=
  match m.glyphWidth with
  | .whole glyph =>
      match Binary64.ofRatio false m.contentWidth.toNat glyph.toNat with
      | .infinite _ => .error .quotientTooLarge
      | q => .ok q
  | .real glyph =>
      match Binary64.ofInt m.contentWidth with
      | .infinite _ => .error .widthTooLarge
      | width =>
          match width.divide glyph with
          | .infinite _ => .error .infinite
          | .undefined => .error .undefined
          | q => .ok q

/-- The column of an answer: the whole characters of average width that fit, at least one. -/
def column (m : TextMeasurer) : Except QuotientFault Text.Column :=
  m.quotient.map fun q =>
    ⟨max 1 ((q.floor?.getD 0).toNat), Nat.lt_of_lt_of_le Nat.zero_lt_one (Nat.le_max_left 1 _)⟩

def linesIn (column : Text.Column) (text : String) : Nat :=
  max 1 (Text.wrap column text.toList).length

def lineCount (m : TextMeasurer) (text : String) : Except QuotientFault Nat :=
  m.column.map (linesIn · text)

def height (m : TextMeasurer) (item : FaqItem) : Except QuotientFault Int :=
  (m.lineCount item.answer).map fun lines => lines * m.lineHeight + m.padding

end TextMeasurer

end SavingsSite
