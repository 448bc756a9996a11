set_option autoImplicit false

/-! Digits of ASCII: the value of one in base ten or sixteen, and hexadecimal texts of numbers. -/

namespace SavingsSite.Text

def digit? (c : Char) : Option Nat :=
  if c.isDigit then some (c.toNat - '0'.toNat) else none

def hexValue? (c : Char) : Option Nat :=
  if c.isDigit then some (c.toNat - '0'.toNat)
  else if 'a' ≤ c && c ≤ 'f' then some (c.toNat - 'a'.toNat + 10)
  else if 'A' ≤ c && c ≤ 'F' then some (c.toNat - 'A'.toNat + 10)
  else none

def isHexDigit (c : Char) : Bool := (hexValue? c).isSome

/-- `width` hexadecimal digits of a number in small letters, or more when it needs them. -/
def hexText (width n : Nat) : List Char :=
  let digits := Nat.toDigits 16 n
  List.replicate (width - digits.length) '0' ++ digits

/-- The escape of a code point in hexadecimal digits, two, four or eight of them. -/
def escapedPoint (n : Nat) : List Char :=
  if n < 0x100 then '\\' :: 'x' :: hexText 2 n
  else if n < 0x10000 then '\\' :: 'u' :: hexText 4 n
  else '\\' :: 'U' :: hexText 8 n

theorem hexValue?_digitChar (n : Nat) (small : n < 16) :
    hexValue? (Nat.digitChar n) = some n := by
  revert n
  decide

end SavingsSite.Text
