set_option autoImplicit false

/-! Sorting without repetition: a set of values as the strictly ascending list of its members. -/

namespace SavingsSite.Text

variable {α : Type}

/-- A value in its place among ascending values; one that is there already is not repeated. -/
def insertSorted (below : α → α → Bool) (a : α) : List α → List α
  | [] => [a]
  | b :: rest =>
      if below a b then a :: b :: rest
      else if below b a then b :: insertSorted below a rest
      else b :: rest

def sortedSet (below : α → α → Bool) (values : List α) : List α :=
  values.foldr (insertSorted below) []

def stringBelow (a b : String) : Bool := a < b

def sortedStrings (values : List String) : List String := sortedSet stringBelow values

end SavingsSite.Text
