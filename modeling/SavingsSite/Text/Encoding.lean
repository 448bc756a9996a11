import SavingsSite.Text.Utf8

set_option autoImplicit false

/-! Texts in one of the encodings of Unicode. A mark of byte order names the encoding; without
one the zero bytes among the first four do. -/

namespace SavingsSite.Text

inductive Encoding where
  | utf8
  | utf16 (bigEndian : Bool)
  | utf32 (bigEndian : Bool)
  deriving DecidableEq, Repr

def detectEncoding (bytes : List Nat) : Encoding × List Nat :=
  match bytes with
  | 0x00 :: 0x00 :: 0xFE :: 0xFF :: rest => (.utf32 true, rest)
  | 0xFF :: 0xFE :: 0x00 :: 0x00 :: rest => (.utf32 false, rest)
  | 0xFE :: 0xFF :: rest => (.utf16 true, rest)
  | 0xFF :: 0xFE :: rest => (.utf16 false, rest)
  | 0xEF :: 0xBB :: 0xBF :: rest => (.utf8, rest)
  | a :: b :: c :: d :: _ =>
      if a = 0 then ((if b = 0 then .utf32 true else .utf16 true), bytes)
      else if b = 0 then ((if c = 0 && d = 0 then .utf32 false else .utf16 false), bytes)
      else (.utf8, bytes)
  | [a, b] =>
      if a = 0 then (.utf16 true, bytes)
      else if b = 0 then (.utf16 false, bytes)
      else (.utf8, bytes)
  | _ => (.utf8, bytes)

def units16? (bigEndian : Bool) : List Nat → Option (List Nat)
  | [] => some []
  | [_] => none
  | a :: b :: rest =>
      (units16? bigEndian rest).map ((if bigEndian then a * 256 + b else b * 256 + a) :: ·)

def symbolsOfUnits : List Nat → List Symbol
  | [] => []
  | high :: low :: rest =>
      if isHighHalf high && isLowHalf low then .char (pairedChar high low) :: symbolsOfUnits rest
      else Symbol.ofUnit high :: symbolsOfUnits (low :: rest)
  | [unit] => [Symbol.ofUnit unit]

/-- The symbols of 32-bit code points; none when a byte is left over or a value is no point. -/
def decodeUtf32 (bigEndian : Bool) : List Nat → Option (List Symbol)
  | [] => some []
  | a :: b :: c :: d :: rest =>
      let point :=
        if bigEndian then ((a * 256 + b) * 256 + c) * 256 + d
        else ((d * 256 + c) * 256 + b) * 256 + a
      if point < 0x110000 then
        (decodeUtf32 bigEndian rest).map fun more =>
          (if isHighHalf point || isLowHalf point then .half point else .char (Char.ofNat point))
            :: more
      else none
  | _ => none

def decodeDetected (bytes : List Nat) : Option (List Symbol) :=
  match detectEncoding bytes with
  | (.utf8, rest) => decodePassing rest
  | (.utf16 bigEndian, rest) => (units16? bigEndian rest).map symbolsOfUnits
  | (.utf32 bigEndian, rest) => decodeUtf32 bigEndian rest

end SavingsSite.Text
