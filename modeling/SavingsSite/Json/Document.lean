import SavingsSite.Json.Scan

set_option autoImplicit false

/-! JSON documents: texts without lone halves of pairs. A fault is described by its reason and by
its line and column, where columns count bytes. -/

namespace SavingsSite.Json.Document

open Text (Symbol digit? hexValue?)

inductive Reason where
  | endInList
  | endInObject
  | endInString
  | endInValue
  | expectedColon
  | expectedListNext
  | expectedObjectNext
  | expectedWord
  | expectedValue
  | invalidEscape
  | invalidNumber
  | numberTooLong
  | controlCharacter
  | nameNotString
  | loneHalf
  | unfinishedPair
  | trailingComma
  | trailingText
  | tooDeep
  deriving DecidableEq, Repr

def Reason.message : Reason → String
  | endInList => "EOF while parsing a list"
  | endInObject => "EOF while parsing an object"
  | endInString => "EOF while parsing a string"
  | endInValue => "EOF while parsing a value"
  | expectedColon => "expected `:`"
  | expectedListNext => "expected `,` or `]`"
  | expectedObjectNext => "expected `,` or `\x7d`"
  | expectedWord => "expected ident"
  | expectedValue => "expected value"
  | invalidEscape => "invalid escape"
  | invalidNumber => "invalid number"
  | numberTooLong => "number out of range"
  | controlCharacter => "control character (\\u0000-\\u001F) found while parsing a string"
  | nameNotString => "key must be a string"
  | loneHalf => "lone leading surrogate in hex escape"
  | unfinishedPair => "unexpected end of hex escape"
  | trailingComma => "trailing comma"
  | trailingText => "trailing characters"
  | tooDeep => "recursion limit exceeded"

def dialect : Dialect where
  loneHalves := false
  digits := digitLimit
  cappedNumbers := true
  depth := 200

def endReason : List Frame → Reason
  | [] => .endInValue
  | .list _ :: _ => .endInList
  | _ => .endInObject

def nextReason : List Frame → Reason
  | [] => .trailingText
  | .list _ :: _ => .expectedListNext
  | _ => .expectedObjectNext

def symbolSize : Symbol → Nat
  | .char c => c.utf8Size
  | .half _ => 3

def byteSize : List Symbol → Nat
  | [] => 0
  | s :: rest => symbolSize s + byteSize rest

/-- Whether fewer than four bytes remain for the digits of a code unit, of which `count` were
read before `rest`. -/
def unitCutShort (count : Nat) (rest : List Symbol) : Bool := count + byteSize rest < 4

def atEnd (state : State) : Reason :=
  match state.mode with
  | .value .firstItem => .endInList
  | .value _ => .endInValue
  | .name first => if first then .endInObject else .endInValue
  | .colon => .endInObject
  | .next => endReason state.stack
  | .word _ _ _ => .endInValue
  | .number n => if n.complete then endReason state.stack else .endInValue
  | .string _ | .escape _ _ | .unit _ _ _ _ => .endInString
  | .finished _ => .trailingText

/-- The fault at a symbol with the number of places that it lies further on; none when it is at
the end of the text. -/
def atSymbol (state : State) (c : Char) (rest : List Symbol) : Option (Reason × Nat) :=
  match state.mode with
  | .value opening =>
      if opening = .nextItem && c = ']' then some (.trailingComma, 0)
      else if dialect.depth < state.stack.length then some (.tooDeep, 0)
      else some (.expectedValue, 0)
  | .name first =>
      if !first && c = '\x7d' then some (.trailingComma, 0) else some (.nameNotString, 0)
  | .colon => some (.expectedColon, 0)
  | .next => some (nextReason state.stack, 0)
  | .word _ _ _ => some (.expectedWord, 0)
  | .number n =>
      if n.complete then
        if (digit? c).isSome then
          if n.phase = .zero then some (.invalidNumber, 0) else some (.numberTooLong, 1)
        else some (nextReason state.stack, 0)
      else some (.invalidNumber, 0)
  | .string r =>
      if r.openHalf?.isSome then some (.unfinishedPair, 0) else some (.controlCharacter, 0)
  | .escape r _ =>
      if r.openHalf?.isSome then some (.unfinishedPair, 0) else some (.invalidEscape, 0)
  | .unit _ _ count _ =>
      if unitCutShort count rest then none
      else if (hexValue? c).isSome then some (.loneHalf, 0) else some (.invalidEscape, 0)
  | .finished _ => some (.trailingText, 0)

/-- A fault with its line, counted from one, and its column. -/
structure Fault where
  reason : Reason
  line : Nat
  column : Nat
  deriving DecidableEq, Repr

def Fault.message (fault : Fault) : String :=
  "Invalid JSON: " ++ fault.reason.message ++ " at line " ++ toString fault.line ++
    " column " ++ toString fault.column

/-- Line and column of the character at a place, after `column` bytes of the line. -/
def locate (line column : Nat) : List Char → Nat → Nat × Nat
  | [], _ => (line, column)
  | c :: _, 0 => if c = '\n' then (line + 1, 0) else (line, column + 1)
  | c :: rest, place + 1 =>
      if c = '\n' then locate (line + 1) 0 rest place
      else locate line (column + c.utf8Size) rest place

def explain (stop : Stop) : Reason × Nat :=
  match stop.rest with
  | [] => (atEnd stop.state, stop.place)
  | s :: _ =>
      let c := match s with | .char c => c | .half _ => '\uFFFD'
      match atSymbol stop.state c stop.rest with
      | some (reason, further) => (reason, stop.place + further)
      | none => (.endInString, stop.place + stop.rest.length)

def read (input : String) : Except Fault Json :=
  match scan dialect (Text.symbols input) with
  | .ok value => .ok value
  | .error stop =>
      let (reason, place) := explain stop
      let (line, column) := locate 1 0 input.toList place
      .error ⟨reason, line, column⟩

end SavingsSite.Json.Document
