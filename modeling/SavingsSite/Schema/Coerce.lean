import SavingsSite.Schema.Issue
import SavingsSite.Text.Blank

set_option autoImplicit false

/-! Integers and flags from values of other kinds: texts that spell them, whole numbers with a
point, flags and the integers zero and one. -/

namespace SavingsSite.Schema

inductive SpellingFault where
  | notInteger
  | tooLong
  deriving DecidableEq, Repr

/-- Digits without a leading zero unless there is one digit only, after an optional minus. -/
def plainInteger (spelling : List Char) : Except SpellingFault Int :=
  let negative : Bool := spelling.head? = some '-'
  let body := if negative then spelling.tail else spelling
  let digits := body.takeWhile Char.isDigit
  if digits.head? = some '0' && 1 < digits.length then .error .notInteger
  else if Json.digitLimit < digits.length then .error .tooLong
  else if digits.isEmpty || digits.length < body.length then .error .notInteger
  else
    let n : Int := Nat.ofDigitChars 10 digits 0
    .ok (if negative then -n else n)

def isSpellingStart (c : Char) : Bool := ('1' ≤ c && c ≤ '9') || c = '-'

/-- The spelling from its first character that counts, given the zero or low line `last` and what
follows it. A minus may come after the zeros. -/
def dropZeros (last : Char) : List Char → Option (List Char)
  | [] => some [last]
  | c :: rest =>
      if c = '0' || c = '_' then dropZeros c rest
      else if isSpellingStart c then some (c :: rest)
      else if c = '.' then some (last :: c :: rest)
      else none

/-- A spelling without leading zeros; none when it does not start like a number. -/
def stripUnsignedZeros : List Char → Option (List Char)
  | [] => none
  | c :: rest =>
      if c = '0' then dropZeros c rest
      else if isSpellingStart c then some (c :: rest)
      else none

def stripZeros : List Char → Option (List Char)
  | '-' :: rest => (stripUnsignedZeros rest).map ('-' :: ·)
  | spelling => stripUnsignedZeros spelling

def stripPoint (spelling : List Char) : List Char :=
  let zeros := (spelling.dropWhile (· ≠ '.')).tail
  if !zeros.isEmpty && zeros.all (· = '0') then spelling.takeWhile (· ≠ '.') else spelling

def hasDoubleLine : List Char → Bool
  | '_' :: '_' :: _ => true
  | _ :: rest => hasDoubleLine rest
  | [] => false

def stripLines (spelling : List Char) : List Char :=
  if spelling.head? = some '_' || spelling.getLast? = some '_' || hasDoubleLine spelling then
    spelling
  else spelling.filter (· ≠ '_')

def stripSign (spelling : List Char) : Option (List Char) :=
  match Text.trim Text.isWhiteSpace spelling with
  | '+' :: '-' :: _ => none
  | '+' :: rest => some rest
  | plain => some plain

/-- The integer that a text spells. White space around it, a plus sign, leading zeros with low
lines, single low lines between digits, and a point with zeros after it are allowed. Only a text
that spells an integer without them is refused for its length. -/
def spelledInteger (spelling : List Char) : Except SpellingFault Int :=
  match plainInteger spelling with
  | .ok n => .ok n
  | .error .tooLong => .error .tooLong
  | .error .notInteger =>
      match (stripSign spelling).bind stripZeros with
      | some digits =>
          (plainInteger (stripLines (stripPoint digits))).mapError fun _ => .notInteger
      | none => .error .notInteger

def realBound : Int := 9223372036854775808

def integerOf : Json → Except IssueKind Int
  | .whole n => .ok n
  | .flag b => .ok (if b then 1 else 0)
  | .real x =>
      match x with
      | .finite _ _ _ =>
          match x.toInt? with
          | none => .error .fraction
          | some n => if -realBound < n && n < realBound then .ok n else .error .integerTooLong
      | _ => .error .notFinite
  | .text (.sound spelling) =>
      match spelledInteger spelling.toList with
      | .ok n => .ok n
      | .error .tooLong => .error .integerTooLong
      | .error .notInteger => .error .integerText
  | .text (.torn _) => .error .tornText
  | _ => .error .notInteger

def noWords : List String := ["0", "f", "n", "no", "off", "false"]

def yesWords : List String := ["1", "t", "y", "on", "yes", "true"]

def spelledFlag (word : String) : Option Bool :=
  let lower := String.ofList (word.toList.map Char.toLower)
  if noWords.contains lower then some false
  else if yesWords.contains lower then some true
  else none

def integerFlag (n : Int) : Except IssueKind Bool :=
  if n = 0 then .ok false else if n = 1 then .ok true else .error .flagText

def flagOf : Json → Except IssueKind Bool
  | .flag b => .ok b
  | .text (.sound word) =>
      match spelledFlag word with
      | some b => .ok b
      | none => .error .flagText
  | .text (.torn _) => .error .tornText
  | .whole n => if -realBound ≤ n && n < realBound then integerFlag n else .error .notFlag
  | .real x =>
      match x.toInt? with
      | some n => if -realBound < n && n < realBound then integerFlag n else .error .notFlag
      | none => .error .notFlag
  | _ => .error .notFlag

end SavingsSite.Schema
