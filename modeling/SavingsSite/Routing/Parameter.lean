import SavingsSite.Decimal.Shortest
import SavingsSite.Json.Scan
import SavingsSite.Text.Digit

set_option autoImplicit false

/-! Kinds of path parameters: the texts that each of them accepts, the order in which a match
tries them, and the value that an accepted text stands for. -/

namespace SavingsSite.Routing

inductive ParamKind where
  | segment
  | path
  | whole
  | real
  | uuid
  deriving DecidableEq, Repr

namespace ParamKind

def ofName? (name : List Char) : Option ParamKind :=
  if name = "str".toList then some segment
  else if name = "path".toList then some path
  else if name = "int".toList then some whole
  else if name = "float".toList then some real
  else if name = "uuid".toList then some uuid
  else none

def descending (low high : Nat) : List Nat :=
  ((List.range (high + 1 - low)).map (· + low)).reverse

def runLength (belongs : Char → Bool) (input : List Char) : Nat :=
  (input.takeWhile belongs).length

/-- The length of `count` hexadecimal digits in each group, with an optional hyphen between
groups, at the start of a text. -/
def hexGroups : List Nat → List Char → Option Nat
  | [], _ => some 0
  | count :: groups, input =>
      let digits := input.take count
      if digits.length = count && digits.all Text.isHexDigit then
        match groups, input.drop count with
        | [], _ => some count
        | _ :: _, '-' :: rest => (hexGroups groups rest).map (count + 1 + ·)
        | _ :: _, rest => (hexGroups groups rest).map (count + ·)
      else none

/-- The lengths of the texts at the start of `input` that a parameter accepts, the preferred
first: longer ones before shorter ones. -/
def lengths (kind : ParamKind) (input : List Char) : List Nat :=
  match kind with
  | segment => descending 1 (runLength (· ≠ '/') input)
  | path => descending 0 (runLength (· ≠ '\n') input)
  | whole => descending 1 (runLength Char.isDigit input)
  | real =>
      let size := runLength Char.isDigit input
      let fraction :=
        match size, input.drop size with
        | 0, _ => 0
        | _, '.' :: rest => runLength Char.isDigit rest
        | _, _ => 0
      (descending 1 fraction).map (size + 1 + ·) ++ descending 1 size
  | uuid => (hexGroups [8, 4, 4, 4, 12] input).toList

end ParamKind

inductive ParamValue where
  | text (value : List Char)
  | whole (value : Nat)
  | real (value : Binary64)
  | uuid (digits : List Char)
  deriving DecidableEq, Repr

structure DigitFault where
  count : Nat
  deriving DecidableEq, Repr

def DigitFault.message (fault : DigitFault) : String :=
  "Exceeds the limit (" ++ toString Json.digitLimit ++
    " digits) for integer string conversion: value has " ++ toString fault.count ++
    " digits; use sys.set_int_max_str_digits() to increase the limit"

def ParamKind.value (kind : ParamKind) (input : List Char) : Except DigitFault ParamValue :=
  match kind with
  | segment | path => .ok (.text input)
  | whole =>
      if Json.digitLimit < input.length then .error ⟨input.length⟩
      else .ok (.whole (Nat.ofDigitChars 10 input 0))
  | real =>
      let before := input.takeWhile Char.isDigit
      let after := (input.drop before.length).tail
      let digits := Nat.ofDigitChars 10 (before ++ after) 0
      .ok (.real (Binary64.ofDecimal false digits (-(after.length : Int))))
  | uuid => .ok (.uuid ((input.filter (· ≠ '-')).map Char.toLower))

def hyphenated : List Nat → List Char → List Char
  | [], digits => digits
  | [_], digits => digits
  | count :: groups, digits =>
      digits.take count ++ '-' :: hyphenated groups (digits.drop count)

def ParamValue.toText : ParamValue → String
  | text value => String.ofList value
  | whole value => toString value
  | real value => value.toText
  | uuid digits => String.ofList (hyphenated [8, 4, 4, 4, 12] digits)

end SavingsSite.Routing
