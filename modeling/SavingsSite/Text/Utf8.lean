import SavingsSite.Text.Digit
import SavingsSite.Text.Symbol

set_option autoImplicit false

/-! UTF-8. A sequence that is no character is cut after the bytes that could have begun one, so
every reader sees the same faults at the same places. -/

namespace SavingsSite.Text

abbrev Bytes := List UInt8

inductive Utf8Reason where
  | invalidStart
  | invalidContinuation
  | unexpectedEnd
  deriving DecidableEq, Repr

def Utf8Reason.message : Utf8Reason → String
  | invalidStart => "invalid start byte"
  | invalidContinuation => "invalid continuation byte"
  | unexpectedEnd => "unexpected end of data"

/-- The first character of some bytes with the number of its bytes, or the fault at their start
with the number of bytes it covers. -/
inductive Utf8Step where
  | char (c : Char) (size : Nat)
  | bad (reason : Utf8Reason) (size : Nat)
  deriving DecidableEq, Repr

def isTail (b : Nat) : Bool := 0x80 ≤ b && b < 0xC0

/-- Whether `second` may follow the first byte of a sequence of three or four. -/
def allowsSecond (first second : Nat) : Bool :=
  isTail second &&
    (if first = 0xE0 then 0xA0 ≤ second
    else if first = 0xED then second < 0xA0
    else if first = 0xF0 then 0x90 ≤ second
    else if first = 0xF4 then second < 0x90
    else true)

def utf8Step (first : Nat) (rest : List Nat) : Utf8Step :=
  if first < 0x80 then .char (Char.ofNat first) 1
  else if first < 0xC2 || 0xF5 ≤ first then .bad .invalidStart 1
  else
    match rest with
    | [] => .bad .unexpectedEnd 1
    | b :: more =>
        if first < 0xE0 then
          if isTail b then .char (Char.ofNat ((first - 0xC0) * 64 + (b - 0x80))) 2
          else .bad .invalidContinuation 1
        else if !allowsSecond first b then .bad .invalidContinuation 1
        else
          match more with
          | [] => .bad .unexpectedEnd 2
          | c :: more =>
              if !isTail c then .bad .invalidContinuation 2
              else if first < 0xF0 then
                .char (Char.ofNat ((first - 0xE0) * 4096 + (b - 0x80) * 64 + (c - 0x80))) 3
              else
                match more with
                | [] => .bad .unexpectedEnd 3
                | d :: _ =>
                    if !isTail d then .bad .invalidContinuation 3
                    else
                      .char (Char.ofNat ((first - 0xF0) * 262144 + (b - 0x80) * 4096 +
                        (c - 0x80) * 64 + (d - 0x80))) 4

def values (bytes : Bytes) : List Nat := bytes.map UInt8.toNat

/-- The first fault of some bytes: its place, what it covers, and its reason. -/
structure Utf8Fault where
  start : Nat
  covered : List Nat
  reason : Utf8Reason
  deriving DecidableEq, Repr

def Utf8Fault.message (fault : Utf8Fault) : String :=
  let subject :=
    match fault.covered with
    | [b] => "byte 0x" ++ String.ofList (hexText 2 b) ++ " in position " ++ toString fault.start
    | bytes => "bytes in position " ++ toString fault.start ++ "-" ++
        toString (fault.start + bytes.length - 1)
  "'utf-8' codec can't decode " ++ subject ++ ": " ++ fault.reason.message

def decodeFrom (place : Nat) : Nat → List Nat → Except Utf8Fault (List Char)
  | 0, _ => .ok []
  | _ + 1, [] => .ok []
  | fuel + 1, b :: rest =>
      match utf8Step b rest with
      | .char c size =>
          (decodeFrom (place + size) fuel (rest.drop (size - 1))).map (c :: ·)
      | .bad reason size => .error ⟨place, (b :: rest).take size, reason⟩

def decodeUtf8 (bytes : Bytes) : Except Utf8Fault (List Char) :=
  decodeFrom 0 bytes.length (values bytes)

def decodeLossyFrom : Nat → List Nat → List Char
  | 0, _ => []
  | _ + 1, [] => []
  | fuel + 1, b :: rest =>
      match utf8Step b rest with
      | .char c size => c :: decodeLossyFrom fuel (rest.drop (size - 1))
      | .bad _ size => '\uFFFD' :: decodeLossyFrom fuel (rest.drop (size - 1))

def decodeLossy (bytes : List Nat) : List Char := decodeLossyFrom bytes.length bytes

def encodedHalf? : List Nat → Option Nat
  | 0xED :: b :: c :: _ =>
      if 0xA0 ≤ b && b < 0xC0 && isTail c then some (0xD000 + (b - 0x80) * 64 + (c - 0x80))
      else none
  | _ => none

def decodePassingFrom : Nat → List Nat → Option (List Symbol)
  | 0, _ => some []
  | _ + 1, [] => some []
  | fuel + 1, b :: rest =>
      match utf8Step b rest with
      | .char c size => (decodePassingFrom fuel (rest.drop (size - 1))).map (.char c :: ·)
      | .bad _ _ =>
          match encodedHalf? (b :: rest) with
          | some unit => (decodePassingFrom fuel (rest.drop 2)).map (.half unit :: ·)
          | none => none

def decodePassing (bytes : List Nat) : Option (List Symbol) :=
  decodePassingFrom bytes.length bytes

def encodeUtf8 (text : List Char) : List Nat :=
  text.flatMap fun c => (String.utf8EncodeChar c).map UInt8.toNat

end SavingsSite.Text
