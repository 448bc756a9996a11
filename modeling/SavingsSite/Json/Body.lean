import SavingsSite.Json.Scan

set_option autoImplicit false

/-! JSON in request bodies. Strings may hold lone halves of pairs, and a fault is described by a
reason and an offset in the decoded text. -/

namespace SavingsSite.Json.Body

open Text (Symbol)

inductive Reason where
  | value
  | name
  | colon
  | comma
  | extra
  | unterminated
  | control
  | escape
  | unit
  deriving DecidableEq, Repr

def Reason.message : Reason → String
  | value => "Expecting value"
  | name => "Expecting property name enclosed in double quotes"
  | colon => "Expecting ':' delimiter"
  | comma => "Expecting ',' delimiter"
  | extra => "Extra data"
  | unterminated => "Unterminated string starting at"
  | control => "Invalid control character at"
  | escape => "Invalid \\escape"
  | unit => "Invalid \\uXXXX escape"

/-- A text is refused at an offset, or it exceeds a limit of the reader. -/
inductive Fault where
  | malformed (reason : Reason) (offset : Nat)
  | overLimit
  deriving DecidableEq, Repr

/-- The reader of request bodies. How deep it goes depends on the stack that is left to it, and
`depth` stands for what a request usually leaves. Writing a value knows no depth that is too great. -/
def dialect : Dialect where
  loneHalves := true
  digits := digitLimit
  cappedNumbers := false
  depth := 950

def nextReason : List Frame → Reason
  | [] => .extra
  | _ => .comma

/-- How many characters at the end of a number do not belong to it when it ends here. -/
def dangling : Phase → Nat
  | .point | .mark => 1
  | .markSign => 2
  | _ => 0

def numberFault (n : Numeral) (stack : List Frame) (place : Nat) : Fault :=
  if n.phase = .sign then .malformed .value n.start
  else if dialect.digits < n.size && (n.isWhole || (n.phase != .fraction && n.phase != .power &&
      n.places = 0)) then .overLimit
  else .malformed (nextReason stack) (place - dangling n.phase)

def explain (stop : Stop) : Fault :=
  let stack := stop.state.stack
  match stop.state.mode with
  | .value _ =>
      if !stop.rest.isEmpty && dialect.depth < stack.length then .overLimit
      else .malformed .value stop.place
  | .name _ => .malformed .name stop.place
  | .colon => .malformed .colon stop.place
  | .next => .malformed (nextReason stack) stop.place
  | .word start _ _ => .malformed .value start
  | .number n => numberFault n stack stop.place
  | .string r =>
      if stop.rest.isEmpty then
        match r.recent with
        | some mark => .malformed .unit mark
        | none => .malformed .unterminated r.start
      else .malformed .control stop.place
  | .escape r slash =>
      if stop.rest.isEmpty then .malformed .unterminated r.start else .malformed .escape slash
  | .unit _ mark _ _ => .malformed .unit mark
  | .finished _ => .malformed .extra stop.place

def read (input : List Symbol) : Except Fault Json :=
  match scan dialect input with
  | .ok value => .ok value
  | .error stop => .error (explain stop)

end SavingsSite.Json.Body
