set_option autoImplicit false

/-! Binary floating-point numbers of 64 bits as exact values. Quotients of integers are rounded
once, to the nearest number and on a tie to the even mantissa. -/

namespace SavingsSite

/-- A finite number is `mantissa * 2 ^ exponent` with its sign; zero has a sign too. -/
inductive Binary64 where
  | finite (negative : Bool) (mantissa : Nat) (exponent : Int)
  | infinite (negative : Bool)
  | undefined
  deriving DecidableEq, Repr

namespace Binary64

def mantissaBound : Nat := Nat.pow 2 53

def leastExponent : Int := -1074

def greatestExponent : Int := 971

def roundHalfEven (num den : Nat) : Nat :=
  let floor := num / den
  let rest := num % den
  if 2 * rest < den then floor
  else if den < 2 * rest then floor + 1
  else if floor % 2 = 0 then floor else floor + 1

def scaled (num den : Nat) (exponent : Int) : Nat × Nat :=
  (num * Nat.pow 2 (-exponent).toNat, den * Nat.pow 2 exponent.toNat)

/-- The exponent that gives the quotient a mantissa of 53 bits, or the least exponent. -/
def exponentFor (num den : Nat) : Int :=
  let guess : Int := (num.log2 : Int) - (den.log2 : Int) - 53
  let (top, bottom) := scaled num den guess
  max leastExponent (if top / bottom < mantissaBound then guess else guess + 1)

def ofRatio (negative : Bool) (num den : Nat) : Binary64 :=
  if num = 0 then finite negative 0 leastExponent
  else
    let exponent := exponentFor num den
    let (top, bottom) := scaled num den exponent
    let mantissa := roundHalfEven top bottom
    let (mantissa, exponent) :=
      if mantissa = mantissaBound then (mantissa / 2, exponent + 1) else (mantissa, exponent)
    if greatestExponent < exponent then infinite negative
    else finite negative mantissa exponent

def ofInt (n : Int) : Binary64 := ofRatio (n < 0) n.natAbs 1

/-- The number nearest to `digits * 10 ^ power`. Powers far outside the range are cut short. -/
def ofDecimal (negative : Bool) (digits : Nat) (power : Int) : Binary64 :=
  let size : Int := (Nat.toDigits 10 digits).length + power
  if digits = 0 || size < -400 then finite negative 0 leastExponent
  else if 400 < size then infinite negative
  else ofRatio negative (digits * Nat.pow 10 power.toNat) (Nat.pow 10 (-power).toNat)

def ratio (mantissa : Nat) (exponent : Int) : Nat × Nat :=
  (mantissa * Nat.pow 2 exponent.toNat, Nat.pow 2 (-exponent).toNat)

def divide : Binary64 → Binary64 → Binary64
  | undefined, _ | _, undefined => undefined
  | infinite _, infinite _ => undefined
  | infinite a, finite b _ _ => infinite (a != b)
  | finite a _ _, infinite b => finite (a != b) 0 leastExponent
  | finite a m e, finite b n f =>
      if n = 0 then (if m = 0 then undefined else infinite (a != b))
      else
        let (top, bottom) := ratio m (e - f)
        ofRatio (a != b) top (bottom * n)

def isNonpositive : Binary64 → Bool
  | finite negative mantissa _ => negative || mantissa = 0
  | infinite negative => negative
  | undefined => false

def toInt? : Binary64 → Option Int
  | finite negative mantissa exponent =>
      let (top, bottom) := ratio mantissa exponent
      if top % bottom = 0 then
        some (if negative then -((top / bottom : Nat) : Int) else ((top / bottom : Nat) : Int))
      else none
  | _ => none

def floor? : Binary64 → Option Int
  | finite negative mantissa exponent =>
      let (top, bottom) := ratio mantissa exponent
      some ((if negative then -(top : Int) else (top : Int)) / (bottom : Int))
  | _ => none

end Binary64

end SavingsSite
