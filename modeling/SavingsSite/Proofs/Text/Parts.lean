import Mathlib.Data.List.TakeWhile
import SavingsSite.Proofs.Text.Ascii

set_option autoImplicit false

/-! The parts of a text between two marks, and a text without what is dropped at its ends, each as
a place in the whole text. -/

namespace SavingsSite.Text

/-- A stretch of a text without the mark, from the start or a mark to the next mark or the end. -/
def IsPart (mark : Char) (text part : List Char) : Prop :=
  mark ∉ part ∧ ∃ before after, text = before ++ (part ++ after) ∧
    (before = [] ∨ ∃ early, before = early ++ [mark]) ∧
    (after = [] ∨ ∃ late, after = mark :: late)

/-- The core is left when all that is to be dropped is dropped at both ends. -/
def IsCore (drop : Char → Bool) (text core : List Char) : Prop :=
  ∃ left right, text = left ++ (core ++ right) ∧
    (∀ c ∈ left, drop c = true) ∧ (∀ c ∈ right, drop c = true) ∧
    (∀ c ∈ core.head?, drop c = false) ∧ (∀ c ∈ core.getLast?, drop c = false)

/-! ### Parts -/

theorem splitOn_ne_nil (mark : Char) (text : List Char) : splitOn mark text ≠ [] := by
  cases text with
  | nil => exact List.cons_ne_nil [] []
  | cons c rest =>
      rw [splitOn]
      split
      · exact List.cons_ne_nil _ _
      · split <;> exact List.cons_ne_nil _ _

theorem splitOn_append_mark (mark : Char) (early late : List Char) :
    splitOn mark (early ++ mark :: late) = splitOn mark early ++ splitOn mark late := by
  induction early with
  | nil =>
      rw [List.nil_append, splitOn.eq_2, if_pos rfl]
      rfl
  | cons c rest ih =>
      rw [List.cons_append, splitOn, splitOn, ih]
      split
      · rfl
      · cases parts : splitOn mark rest with
        | nil => exact absurd parts (splitOn_ne_nil mark rest)
        | cons part parts => rfl

theorem mem_splitOn_of_isPart {mark : Char} {text part : List Char}
    (isPart : IsPart mark text part) : part ∈ splitOn mark text := by
  obtain ⟨unmarked, before, after, rfl, begins, ends⟩ := isPart
  have first : part ∈ splitOn mark (part ++ after) := by
    rcases ends with rfl | ⟨late, rfl⟩
    · rw [List.append_nil, splitOn_of_not_mem unmarked]
      exact List.mem_singleton_self part
    · rw [splitOn_append_mark, splitOn_of_not_mem unmarked]
      exact List.mem_append_left _ (List.mem_singleton_self part)
  rcases begins with rfl | ⟨early, rfl⟩
  · exact first
  · rw [List.append_assoc, List.singleton_append, splitOn_append_mark]
    exact List.mem_append_right _ first

theorem isPart_of_mem_splitOn {mark : Char} {text part : List Char}
    (member : part ∈ splitOn mark text) : IsPart mark text part := by
  by_cases marked : mark ∈ text
  · obtain ⟨first, rest, split, unmarked⟩ := List.eq_append_cons_of_mem marked
    have shorter : rest.length < text.length := by
      rw [split, List.length_append, List.length_cons]
      omega
    rw [split, splitOn_append_mark, splitOn_of_not_mem unmarked, List.singleton_append,
      List.mem_cons] at member
    rcases member with rfl | later
    · exact ⟨unmarked, [], mark :: rest, split, Or.inl rfl, Or.inr ⟨rest, rfl⟩⟩
    · obtain ⟨own, before, after, inRest, begins, ends⟩ := isPart_of_mem_splitOn later
      refine ⟨own, first ++ mark :: before, after, ?_, Or.inr ?_, ends⟩
      · rw [split, inRest, List.append_assoc, List.cons_append]
      · rcases begins with rfl | ⟨early, rfl⟩
        · exact ⟨first, rfl⟩
        · exact ⟨first ++ mark :: early, by rw [List.append_assoc, List.cons_append]⟩
  · rw [splitOn_of_not_mem marked, List.mem_singleton] at member
    subst member
    exact ⟨marked, [], [], (List.append_nil part).symm, Or.inl rfl, Or.inl rfl⟩
termination_by text.length

theorem mem_splitOn_iff (mark : Char) (text part : List Char) :
    part ∈ splitOn mark text ↔ IsPart mark text part :=
  ⟨isPart_of_mem_splitOn, mem_splitOn_of_isPart⟩

/-! ### Ends -/

theorem dropWhile_append {drop : Char → Bool} {left core : List Char}
    (dropped : ∀ c ∈ left, drop c = true) (stays : ∀ c ∈ core.head?, drop c = false) :
    (left ++ core).dropWhile drop = core := by
  rw [List.dropWhile_append_of_pos dropped]
  cases core with
  | nil => rfl
  | cons c rest => rw [List.dropWhile_cons_of_neg (Bool.eq_false_iff.mp (stays c rfl))]

theorem trimEnd_append {drop : Char → Bool} {core right : List Char}
    (dropped : ∀ c ∈ right, drop c = true) (stays : ∀ c ∈ core.getLast?, drop c = false) :
    trimEnd drop (core ++ right) = core := by
  rw [trimEnd, List.reverse_append, dropWhile_append, List.reverse_reverse]
  · intro c member
    exact dropped c (List.mem_reverse.mp member)
  · rw [List.head?_reverse]
    exact stays

theorem trimEnd_append_dropped (drop : Char → Bool) (text : List Char) :
    trimEnd drop text ++ (text.reverse.takeWhile drop).reverse = text := by
  rw [trimEnd, ← List.reverse_append, List.takeWhile_append_dropWhile, List.reverse_reverse]

theorem head?_dropWhile (drop : Char → Bool) (text : List Char) :
    ∀ c ∈ (text.dropWhile drop).head?, drop c = false := by
  intro c member
  have first := List.head?_dropWhile_not drop text
  rw [Option.mem_def.mp member] at first
  exact first

theorem getLast?_trimEnd (drop : Char → Bool) (text : List Char) :
    ∀ c ∈ (trimEnd drop text).getLast?, drop c = false := by
  intro c member
  rw [trimEnd, List.getLast?_reverse] at member
  exact head?_dropWhile drop _ c member

theorem trim_eq_of_isCore {drop : Char → Bool} {text core : List Char}
    (isCore : IsCore drop text core) : trim drop text = core := by
  obtain ⟨left, right, rfl, leftDropped, rightDropped, first, last⟩ := isCore
  rw [trim]
  cases core with
  | nil =>
      have dropped : ∀ c ∈ left ++ right, drop c = true :=
        List.forall_mem_append.mpr ⟨leftDropped, rightDropped⟩
      rw [List.nil_append, List.dropWhile_eq_nil_iff.mpr dropped]
      rfl
  | cons c rest =>
      have stays : ∀ d ∈ (c :: rest ++ right).head?, drop d = false := first
      rw [dropWhile_append leftDropped stays]
      exact trimEnd_append rightDropped last

theorem isCore_trim (drop : Char → Bool) (text : List Char) :
    IsCore drop text (trim drop text) := by
  have kept : text.dropWhile drop = trim drop text ++
      ((text.dropWhile drop).reverse.takeWhile drop).reverse :=
    (trimEnd_append_dropped drop _).symm
  refine ⟨text.takeWhile drop, ((text.dropWhile drop).reverse.takeWhile drop).reverse, ?_, ?_, ?_,
    ?_, ?_⟩
  · rw [← kept, List.takeWhile_append_dropWhile]
  · intro c member
    exact List.mem_takeWhile_imp member
  · intro c member
    exact List.mem_takeWhile_imp (List.mem_reverse.mp member)
  · intro c member
    apply head?_dropWhile drop text
    rw [kept, List.head?_append, Option.mem_def.mp member]
    rfl
  · exact getLast?_trimEnd drop _

theorem trim_eq_iff (drop : Char → Bool) (text core : List Char) :
    trim drop text = core ↔ IsCore drop text core := by
  constructor
  · rintro rfl
    exact isCore_trim drop text
  · exact trim_eq_of_isCore

end SavingsSite.Text
