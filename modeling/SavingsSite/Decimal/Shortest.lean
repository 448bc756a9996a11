import SavingsSite.Decimal.Binary64

set_option autoImplicit false

/-! The shortest decimal that reads back as a given number. Of the grids with 1, 2, … 17 digits
the first with a point in the rounding interval wins, on it the point nearest to the number. -/

namespace SavingsSite.Binary64

/-- A magnitude that rounds to a number: twice its ratio with the two ends of its interval. -/
structure Interval where
  low : Nat
  value : Nat
  high : Nat
  bottom : Nat
  closed : Bool

/-- The decimals that round to `mantissa * 2 ^ exponent`. The interval is half as wide below a
power of two, and holds its ends when the mantissa is even. -/
def interval (mantissa : Nat) (exponent : Int) : Interval :=
  let (top, bottom) := ratio 1 exponent
  let narrow := 2 * mantissa = mantissaBound && leastExponent < exponent
  { low := (4 * mantissa - if narrow then 1 else 2) * top
    value := 4 * mantissa * top
    high := (4 * mantissa + 2) * top
    bottom := 4 * bottom
    closed := mantissa % 2 = 0 }

def Interval.holds (i : Interval) (point den : Nat) : Bool :=
  let p := point * i.bottom
  if i.closed then i.low * den ≤ p && p ≤ i.high * den else i.low * den < p && p < i.high * den

/-- The number of digits before the point; zero or less counts zeros after it. -/
def leadingPower (num den : Nat) : Int :=
  if den ≤ num then (Nat.toDigits 10 (num / den)).length
  else 1 - ((Nat.toDigits 10 (den / num)).length : Int)

/-- The point of the grid with spacing `10 ^ power` that the interval holds and that is nearest
to its value; of two equally near the even one. -/
def gridPoint? (i : Interval) (power : Int) : Option Nat :=
  let step := Nat.pow 10 power.toNat
  let den := Nat.pow 10 (-power).toNat
  let below := i.value * den / (i.bottom * step)
  let above := below + 1
  let belowIn := i.holds (below * step) den
  let aboveIn := i.holds (above * step) den
  if belowIn && aboveIn then some (roundHalfEven (i.value * den) (i.bottom * step))
  else if belowIn then some below
  else if aboveIn then some above
  else none

def firstPoint (i : Interval) (lead : Int) (count : Nat) : Nat → Nat × Int
  | 0 => (i.value / i.bottom, 0)
  | more + 1 =>
      match gridPoint? i (lead - count) with
      | some point => (point, lead - count)
      | none => firstPoint i lead (count + 1) more

def shortest (mantissa : Nat) (exponent : Int) : List Char × Int :=
  let i := interval mantissa exponent
  let (point, power) := firstPoint i (leadingPower i.value i.bottom) 1 18
  let digits := Nat.toDigits 10 point
  let kept := (digits.reverse.dropWhile (· = '0')).reverse
  (kept, power + digits.length)

/-- Digits with the point after the first `lead` of them. Positional from `1e-4` up to `1e16`,
with at least one digit on both sides of the point; otherwise one digit, the rest, and an
exponent with a sign and at least two digits. -/
def layout (digits : List Char) (lead : Int) : List Char :=
  if -4 < lead && lead ≤ 0 then
    '0' :: '.' :: (List.replicate (-lead).toNat '0' ++ digits)
  else if 0 < lead && lead ≤ 16 then
    let before := lead.toNat
    let padded := digits ++ List.replicate (before - digits.length) '0'
    let after := digits.drop before
    padded.take before ++ '.' :: (if after.isEmpty then ['0'] else after)
  else
    let exponent := lead - 1
    let size := Nat.toDigits 10 exponent.natAbs
    let padded := if size.length < 2 then '0' :: size else size
    let mark := if exponent < 0 then '-' else '+'
    match digits with
    | [] => []
    | [d] => d :: 'e' :: mark :: padded
    | d :: rest => d :: '.' :: (rest ++ 'e' :: mark :: padded)

def toText : Binary64 → String
  | undefined => "nan"
  | infinite negative => if negative then "-inf" else "inf"
  | finite negative mantissa exponent =>
      let body :=
        if mantissa = 0 then ['0', '.', '0']
        else
          let (digits, lead) := shortest mantissa exponent
          layout digits lead
      String.ofList (if negative then '-' :: body else body)

end SavingsSite.Binary64
