import SavingsSite.Decimal.Shortest
import SavingsSite.Json.Basic
import SavingsSite.Text.Digit

set_option autoImplicit false

/-! The compact text of a JSON value: no blanks between tokens, and in strings only the quote,
the backslash and the control characters are escaped. -/

namespace SavingsSite.Json

open Text (Symbol)

def escape? (c : Char) : Option (List Char) :=
  if c = '"' then some ['\\', '"']
  else if c = '\\' then some ['\\', '\\']
  else if c = '\n' then some ['\\', 'n']
  else if c = '\r' then some ['\\', 'r']
  else if c = '\t' then some ['\\', 't']
  else if c = '\x08' then some ['\\', 'b']
  else if c = '\x0c' then some ['\\', 'f']
  else if c.toNat < 0x20 then some ('\\' :: 'u' :: Text.hexText 4 c.toNat)
  else none

def before (shown : List Char) (rest : List Symbol) : List Symbol :=
  shown.foldr (fun c tail => .char c :: tail) rest

def symbolBefore (s : Symbol) (rest : List Symbol) : List Symbol :=
  match s with
  | .half _ => s :: rest
  | .char c =>
      match escape? c with
      | some shown => before shown rest
      | none => s :: rest

def stringBefore (s : JsonString) (rest : List Symbol) : List Symbol :=
  .char '"' :: s.symbols.foldr symbolBefore (.char '"' :: rest)

/-- The text of a number; the values that are no numbers keep their customary names. -/
def realText : Binary64 → String
  | .undefined => "NaN"
  | .infinite negative => if negative then "-Infinity" else "Infinity"
  | x => x.toText

mutual

def printBefore (rest : List Symbol) : Json → List Symbol
  | null => before "null".toList rest
  | flag value => before (if value then "true" else "false").toList rest
  | whole value => before (toString value).toList rest
  | real value => before (realText value).toList rest
  | text value => stringBefore value rest
  | list items => .char '[' :: printItems (.char ']' :: rest) true items
  | record fields => .char '\x7b' :: printFields (.char '\x7d' :: rest) true fields

def printItems (rest : List Symbol) (first : Bool) : List Json → List Symbol
  | [] => rest
  | value :: more =>
      let tail := printBefore (printItems rest false more) value
      if first then tail else .char ',' :: tail

def printFields (rest : List Symbol) (first : Bool) : List (JsonString × Json) → List Symbol
  | [] => rest
  | (name, value) :: more =>
      let tail := stringBefore name
        (.char ':' :: printBefore (printFields rest false more) value)
      if first then tail else .char ',' :: tail

end

def print (value : Json) : List Symbol := printBefore [] value

/-- The compact text of a value. A half of a pair has no text; the replacement character stands
in for it. -/
def compact (value : Json) : String :=
  String.ofList ((print value).map fun s => (s.toChar?).getD '\uFFFD')

/-- Why a number has no text that is sent: it is none, or it has too many digits. -/
inductive NumberFault where
  | notFinite
  | length (fault : LengthFault)
  deriving DecidableEq, Repr

def NumberFault.message : NumberFault → String
  | notFinite => "Out of range float values are not JSON compliant"
  | length fault => fault.message

mutual

/-- The fault of the first number, in the order of the text, that cannot be sent. -/
def numberFault? : Json → Option NumberFault
  | whole n => if isWritable n then none else some (.length .tooManyDigits)
  | real (.finite _ _ _) => none
  | real _ => some .notFinite
  | list items => itemsFault? items
  | record fields => fieldsFault? fields
  | _ => none

def itemsFault? : List Json → Option NumberFault
  | [] => none
  | value :: more => (numberFault? value).or (itemsFault? more)

def fieldsFault? : List (JsonString × Json) → Option NumberFault
  | [] => none
  | (_, value) :: more => (numberFault? value).or (fieldsFault? more)

end

end SavingsSite.Json
