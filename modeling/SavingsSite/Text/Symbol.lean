set_option autoImplicit false

/-! Symbols of a text that was decoded without a check: characters, and halves of surrogate
pairs that stand alone. A text with such a half cannot be encoded. -/

namespace SavingsSite.Text

/-- A character, or an unpaired half of a surrogate pair. -/
inductive Symbol where
  | char (c : Char)
  | half (unit : Nat)
  deriving DecidableEq, Repr

def isHighHalf (unit : Nat) : Bool := 0xD800 ≤ unit && unit < 0xDC00

def isLowHalf (unit : Nat) : Bool := 0xDC00 ≤ unit && unit < 0xE000

def pairedChar (high low : Nat) : Char :=
  Char.ofNat (0x10000 + (high - 0xD800) * 0x400 + (low - 0xDC00))

namespace Symbol

def ofUnit (unit : Nat) : Symbol :=
  if isHighHalf unit || isLowHalf unit then half unit else char (Char.ofNat unit)

def toChar? : Symbol → Option Char
  | char c => some c
  | half _ => none

def point : Symbol → Nat
  | char c => c.toNat
  | half unit => unit

def isHalf : Symbol → Bool
  | char _ => false
  | half _ => true

end Symbol

def symbols (text : String) : List Symbol := text.toList.map Symbol.char

def chars? : List Symbol → Option (List Char)
  | [] => some []
  | .char c :: rest => (chars? rest).map (c :: ·)
  | .half _ :: _ => none

theorem chars?_map_char (text : List Char) : chars? (text.map Symbol.char) = some text := by
  induction text with
  | nil => rfl
  | cons c rest ih => simp [chars?, ih]

end SavingsSite.Text
