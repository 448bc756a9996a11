import SavingsSite.Json.Basic
import SavingsSite.Text.Digit

set_option autoImplicit false

/-! Reading JSON symbol by symbol with a stack of open containers. The reader stops at the first
symbol that cannot follow; the place, what was being read and the containers open there are
enough to say what is wrong with the text. -/

namespace SavingsSite.Json

open Text (Symbol digit? hexValue?)

/-- What may differ between readers: whether a string may hold lone halves of pairs, the most
digits of an integer, whether these are counted as they come (before a point too), and how many
containers may be open around a value. -/
structure Dialect where
  loneHalves : Bool
  digits : Nat
  cappedNumbers : Bool
  depth : Nat

/-- A container still open, with what it holds so far; the items of a list last first. -/
inductive Frame where
  | list (items : List Json)
  | record (fields : Json.Fields)
  | entry (fields : Json.Fields) (name : JsonString)

inductive Opening where
  | top
  | firstItem
  | nextItem
  | fieldValue
  deriving DecidableEq, Repr

inductive Phase where
  | sign
  | zero
  | whole
  | point
  | fraction
  | mark
  | markSign
  | power
  deriving DecidableEq, Repr

/-- A number so far. `size` counts the digits before the point, `places` those after it. -/
structure Numeral where
  start : Nat
  phase : Phase
  negative : Bool
  digits : Nat := 0
  size : Nat := 0
  places : Nat := 0
  powerNegative : Bool := false
  power : Nat := 0

/-- A string so far, last symbol first. After a `\u` escape `recent` is the place of its `u`. -/
structure Reading where
  start : Nat
  isName : Bool
  done : List Symbol := []
  recent : Option Nat := none

inductive Mode where
  | value (opening : Opening)
  | name (first : Bool)
  | colon
  | next
  | word (start : Nat) (rest : List Char) (value : Json)
  | number (numeral : Numeral)
  | string (reading : Reading)
  | escape (reading : Reading) (slash : Nat)
  | unit (reading : Reading) (mark : Nat) (count : Nat) (value : Nat)
  | finished (value : Json)

structure State where
  stack : List Frame
  mode : Mode

def isJsonBlank (c : Char) : Bool := c = ' ' || c = '\t' || c = '\n' || c = '\r'

def unescape? (c : Char) : Option Char :=
  if c = '"' || c = '\\' || c = '/' then some c
  else if c = 'b' then some '\x08'
  else if c = 'f' then some '\x0c'
  else if c = 'n' then some '\n'
  else if c = 'r' then some '\r'
  else if c = 't' then some '\t'
  else none

def deliver (value : Json) : List Frame → State
  | [] => ⟨[], .finished value⟩
  | .list items :: stack => ⟨.list (value :: items) :: stack, .next⟩
  | .entry fields name :: stack => ⟨.record (Fields.put name value fields) :: stack, .next⟩
  | .record fields :: stack => ⟨.record fields :: stack, .next⟩

namespace Numeral

def complete (n : Numeral) : Bool :=
  n.phase == .zero || n.phase == .whole || n.phase == .fraction || n.phase == .power

def isWhole (n : Numeral) : Bool := n.phase == .zero || n.phase == .whole

def value (n : Numeral) : Json :=
  if n.isWhole then .whole (if n.negative then -(n.digits : Int) else n.digits)
  else
    let power : Int := if n.powerNegative then -(n.power : Int) else n.power
    .real (Binary64.ofDecimal n.negative n.digits (power - n.places))

def tooLong (d : Dialect) (n : Numeral) : Bool := n.isWhole && d.digits < n.size

def push? (d : Dialect) (n : Numeral) (c : Char) : Option Numeral :=
  match n.phase, digit? c with
  | .sign, some k =>
      some { n with phase := if k = 0 then .zero else .whole, digits := k, size := 1 }
  | .whole, some k =>
      if d.cappedNumbers && d.digits ≤ n.size then none
      else some { n with digits := n.digits * 10 + k, size := n.size + 1 }
  | .point, some k | .fraction, some k =>
      some { n with phase := .fraction, digits := n.digits * 10 + k, places := n.places + 1 }
  | .mark, some k | .markSign, some k | .power, some k =>
      some { n with phase := .power, power := n.power * 10 + k }
  | .zero, none | .whole, none =>
      if c = '.' then some { n with phase := .point }
      else if c = 'e' || c = 'E' then some { n with phase := .mark }
      else none
  | .fraction, none => if c = 'e' || c = 'E' then some { n with phase := .mark } else none
  | .mark, none =>
      if c = '+' || c = '-' then some { n with phase := .markSign, powerNegative := c = '-' }
      else none
  | _, _ => none

end Numeral

namespace Reading

def push (r : Reading) (s : Symbol) : Reading :=
  { r with done := s :: r.done, recent := none }

/-- A first half that the escape just read has left and that a second half may complete. -/
def openHalf? (r : Reading) : Option Nat :=
  match r.recent, r.done with
  | some _, .half unit :: _ => if Text.isHighHalf unit then some unit else none
  | _, _ => none

def pushUnit? (d : Dialect) (r : Reading) (mark unit : Nat) : Option Reading :=
  match r.openHalf? with
  | some high =>
      if Text.isLowHalf unit then
        let paired := Symbol.char (Text.pairedChar high unit)
        some { r with done := paired :: r.done.tail, recent := some mark }
      else if d.loneHalves then
        some { r with done := Symbol.ofUnit unit :: r.done, recent := some mark }
      else none
  | none =>
      if Text.isLowHalf unit && !d.loneHalves then none
      else some { r with done := Symbol.ofUnit unit :: r.done, recent := some mark }

/-- After its closing quote a name waits for its value, and any other string is one. -/
def close (r : Reading) (stack : List Frame) : State :=
  let text := JsonString.ofSymbols r.done.reverse
  if r.isName then
    match stack with
    | .record fields :: rest => ⟨.entry fields text :: rest, .colon⟩
    | _ => ⟨stack, .colon⟩
  else deliver (.text text) stack

end Reading

def closeList (stack : List Frame) : Option State :=
  match stack with
  | .list items :: rest => some (deliver (.list items.reverse) rest)
  | _ => none

def closeRecord (stack : List Frame) : Option State :=
  match stack with
  | .record fields :: rest => some (deliver (.record fields) rest)
  | _ => none

def openValue? (place : Nat) (stack : List Frame) (c : Char) : Option State :=
  if c = '"' then some ⟨stack, .string { start := place, isName := false }⟩
  else if c = '[' then some ⟨.list [] :: stack, .value .firstItem⟩
  else if c = '\x7b' then some ⟨.record [] :: stack, .name true⟩
  else if c = 't' then some ⟨stack, .word place "rue".toList (.flag true)⟩
  else if c = 'f' then some ⟨stack, .word place "alse".toList (.flag false)⟩
  else if c = 'n' then some ⟨stack, .word place "ull".toList .null⟩
  else if c = 'N' then some ⟨stack, .word place "aN".toList (.real .undefined)⟩
  else if c = 'I' then some ⟨stack, .word place "nfinity".toList (.real (.infinite false))⟩
  else if c = '-' then some ⟨stack, .number { start := place, phase := .sign, negative := true }⟩
  else
    match digit? c with
    | some k =>
        some ⟨stack, .number
          { start := place, phase := if k = 0 then .zero else .whole, negative := false,
            digits := k, size := 1 }⟩
    | none => none

def afterValue? (stack : List Frame) (c : Char) : Option State :=
  if isJsonBlank c then some ⟨stack, .next⟩
  else
    match stack with
    | .list _ :: _ => if c = ',' then some ⟨stack, .value .nextItem⟩
        else if c = ']' then closeList stack else none
    | .record _ :: _ => if c = ',' then some ⟨stack, .name false⟩
        else if c = '\x7d' then closeRecord stack else none
    | _ => none

def follow? (state : State) (c : Char) : Option State :=
  match state.mode with
  | .finished _ => if isJsonBlank c then some state else none
  | _ => afterValue? state.stack c

def stepChar? (d : Dialect) (place : Nat) (state : State) (c : Char) : Option State :=
  let stack := state.stack
  match state.mode with
  | .value opening =>
      if isJsonBlank c then some state
      else if opening = .firstItem && c = ']' then closeList stack
      else if d.depth < stack.length then none
      else openValue? place stack c
  | .name first =>
      if isJsonBlank c then some state
      else if c = '"' then some ⟨stack, .string { start := place, isName := true }⟩
      else if first && c = '\x7d' then closeRecord stack
      else none
  | .colon =>
      if isJsonBlank c then some state
      else if c = ':' then some ⟨stack, .value .fieldValue⟩
      else none
  | .next => afterValue? stack c
  | .word start rest value =>
      match rest with
      | [] => none
      | [last] => if c = last then some (deliver value stack) else none
      | expected :: more => if c = expected then some ⟨stack, .word start more value⟩ else none
  | .number n =>
      match n.push? d c with
      | some longer => some ⟨stack, .number longer⟩
      | none =>
          if n.phase = .sign && c = 'I' then
            some ⟨stack, .word n.start "nfinity".toList (.real (.infinite true))⟩
          else if n.complete && !n.tooLong d && (digit? c).isNone then
            follow? (deliver n.value stack) c
          else none
  | .string r =>
      if c = '\\' then some ⟨stack, .escape r place⟩
      else if !d.loneHalves && r.openHalf?.isSome then none
      else if c = '"' then some (r.close stack)
      else if c.toNat < 0x20 then none
      else some ⟨stack, .string (r.push (.char c))⟩
  | .escape r _ =>
      if c = 'u' then some ⟨stack, .unit r place 0 0⟩
      else if !d.loneHalves && r.openHalf?.isSome then none
      else (unescape? c).map fun plain => ⟨stack, .string (r.push (.char plain))⟩
  | .unit r mark count value =>
      match hexValue? c with
      | none => none
      | some k =>
          let unit := value * 16 + k
          if count < 3 then some ⟨stack, .unit r mark (count + 1) unit⟩
          else (r.pushUnit? d mark unit).map fun longer => ⟨stack, .string longer⟩
  | .finished _ => if isJsonBlank c then some state else none

def step? (d : Dialect) (place : Nat) (state : State) : Symbol → Option State
  | .char c => stepChar? d place state c
  | .half unit =>
      match state.mode with
      | .string r => some ⟨state.stack, .string (r.push (.half unit))⟩
      | _ => none

def State.value? (d : Dialect) (state : State) : Option Json :=
  match state.mode, state.stack with
  | .finished value, _ => some value
  | .number n, [] => if n.complete && !n.tooLong d then some n.value else none
  | _, _ => none

/-- Where reading stopped: the state, the place, and the symbols from there on. -/
structure Stop where
  state : State
  place : Nat
  rest : List Symbol

def scanFrom (d : Dialect) (place : Nat) (state : State) : List Symbol → Except Stop Json
  | [] =>
      match state.value? d with
      | some value => .ok value
      | none => .error ⟨state, place, []⟩
  | s :: rest =>
      match step? d place state s with
      | some next => scanFrom d (place + 1) next rest
      | none => .error ⟨state, place, s :: rest⟩

def scan (d : Dialect) (input : List Symbol) : Except Stop Json :=
  scanFrom d 0 ⟨[], .value .top⟩ input

end SavingsSite.Json
