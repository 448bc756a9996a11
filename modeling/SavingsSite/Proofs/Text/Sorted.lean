import SavingsSite.Text.Sorted

set_option autoImplicit false

/-! Sorting without repetition keeps the members of a list, if the order separates the values: two
that are not below each other are equal. If the order is also transitive, the result is strictly
ascending. -/

namespace SavingsSite.Text

variable {α : Type}

def Separates (below : α → α → Bool) : Prop :=
  ∀ a b, below a b = false → below b a = false → a = b

theorem insertSorted_ne_nil (below : α → α → Bool) (a : α) (values : List α) :
    insertSorted below a values ≠ [] := by
  cases values with
  | nil => simp only [insertSorted, ne_eq, List.cons_ne_nil, not_false_eq_true]
  | cons b rest =>
      simp only [insertSorted]
      split
      · exact List.cons_ne_nil a (b :: rest)
      · split
        · exact List.cons_ne_nil b (insertSorted below a rest)
        · exact List.cons_ne_nil b rest

theorem sortedSet_eq_nil_iff (below : α → α → Bool) (values : List α) :
    sortedSet below values = [] ↔ values = [] := by
  cases values with
  | nil => rfl
  | cons a rest =>
      constructor
      · intro empty
        exact absurd empty (insertSorted_ne_nil below a (sortedSet below rest))
      · intro impossible
        cases impossible

theorem mem_insertSorted {below : α → α → Bool} (separates : Separates below) (x a : α)
    (values : List α) : x ∈ insertSorted below a values ↔ x = a ∨ x ∈ values := by
  induction values with
  | nil => simp only [insertSorted, List.mem_singleton, List.not_mem_nil, or_false]
  | cons b rest ih =>
      simp only [insertSorted]
      cases before : below a b with
      | true => simp only [if_true, List.mem_cons]
      | false =>
          cases after : below b a with
          | true =>
              simp only [Bool.false_eq_true, if_false, if_true, List.mem_cons, ih]
              exact or_left_comm
          | false =>
              have same := separates a b before after
              subst same
              simp only [Bool.false_eq_true, if_false, List.mem_cons, or_self_left]

theorem mem_sortedSet {below : α → α → Bool} (separates : Separates below) (x : α)
    (values : List α) : x ∈ sortedSet below values ↔ x ∈ values := by
  induction values with
  | nil => rfl
  | cons a rest ih =>
      change x ∈ insertSorted below a (sortedSet below rest) ↔ x ∈ a :: rest
      rw [mem_insertSorted separates, ih, List.mem_cons]

theorem pairwise_insertSorted {below : α → α → Bool} (separates : Separates below)
    (trans : ∀ a b c, below a b = true → below b c = true → below a c = true) (a : α)
    {values : List α} (ascending : values.Pairwise fun x y => below x y = true) :
    (insertSorted below a values).Pairwise fun x y => below x y = true := by
  induction values with
  | nil => exact List.pairwise_singleton _ a
  | cons b rest ih =>
      obtain ⟨first, later⟩ := List.pairwise_cons.mp ascending
      simp only [insertSorted]
      cases before : below a b with
      | true =>
          simp only [if_true]
          refine List.pairwise_cons.mpr ⟨?_, ascending⟩
          intro x member
          rcases List.mem_cons.mp member with rfl | inRest
          · exact before
          · exact trans a b x before (first x inRest)
      | false =>
          cases after : below b a with
          | true =>
              simp only [Bool.false_eq_true, if_false, if_true]
              refine List.pairwise_cons.mpr ⟨?_, ih later⟩
              intro x member
              rcases (mem_insertSorted separates x a rest).mp member with rfl | inRest
              · exact after
              · exact first x inRest
          | false =>
              simp only [Bool.false_eq_true, if_false]
              exact ascending

theorem pairwise_sortedSet {below : α → α → Bool} (separates : Separates below)
    (trans : ∀ a b c, below a b = true → below b c = true → below a c = true) (values : List α) :
    (sortedSet below values).Pairwise fun x y => below x y = true := by
  induction values with
  | nil => exact List.Pairwise.nil
  | cons a rest ih => exact pairwise_insertSorted separates trans a ih

/-! ### Texts -/

theorem stringBelow_separates : Separates stringBelow := by
  intro a b notBelow notAbove
  rw [stringBelow, decide_eq_false_iff_not] at notBelow notAbove
  exact String.le_antisymm (String.not_lt.mp notAbove) (String.not_lt.mp notBelow)

theorem mem_sortedStrings (x : String) (values : List String) :
    x ∈ sortedStrings values ↔ x ∈ values :=
  mem_sortedSet stringBelow_separates x values

theorem pairwise_sortedStrings (values : List String) :
    (sortedStrings values).Pairwise (· < ·) := by
  have ascending := pairwise_sortedSet stringBelow_separates
    (fun a b c first second => by
      rw [stringBelow, decide_eq_true_eq] at first second ⊢
      exact String.lt_trans first second) values
  exact ascending.imp of_decide_eq_true

end SavingsSite.Text
