import SavingsSite.Text.Blank
import SavingsSite.Text.Digit
import SavingsSite.Text.Printable

set_option autoImplicit false

/-! Texts and lists of texts as messages show them: in single quotes, or in double quotes when
the text holds a single quote and no double one, with escapes for what cannot be shown. -/

namespace SavingsSite.Text

def shownChar (quote : Char) (c : Char) : List Char :=
  if c = quote || c = '\\' then ['\\', c]
  else if c = '\n' then ['\\', 'n']
  else if c = '\r' then ['\\', 'r']
  else if c = '\t' then ['\\', 't']
  else if isPrintable c then [c]
  else escapedPoint c.toNat

/-- The mark that saves the most escapes of a text; single when both are as good. -/
def quoteMark (text : List Char) : Char :=
  if text.contains '\'' && !text.contains '"' then '"' else '\''

def quoted (text : String) : String :=
  let chars := text.toList
  let mark := quoteMark chars
  String.ofList (mark :: (chars.flatMap (shownChar mark) ++ [mark]))

def bracketed (items : List String) : String := "[" ++ ", ".intercalate items ++ "]"

def quotedList (texts : List String) : String := bracketed (texts.map quoted)

end SavingsSite.Text
