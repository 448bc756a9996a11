set_option autoImplicit false

/-! Sets of code points given by their bounds: the first bound enters the set, the next leaves it,
and so on in ascending order. Maps of code points given by runs. -/

namespace SavingsSite.Text

def inside (point : Nat) : List Nat → Bool
  | [] => false
  | bound :: rest => if point < bound then false else !inside point rest

/-- The image of a point under runs: each goes from its first to its second point, by the third
number, and its images start at the fourth. -/
def runTarget? (point : Nat) : List (Nat × Nat × Nat × Nat) → Option Nat
  | [] => none
  | (first, last, step, target) :: rest =>
      if first ≤ point && point ≤ last && (point - first) % step = 0 then
        some (target + (point - first))
      else runTarget? point rest

end SavingsSite.Text
