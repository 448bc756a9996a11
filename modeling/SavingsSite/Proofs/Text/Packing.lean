import Mathlib.Data.List.TakeWhile
import SavingsSite.Proofs.Text.Filling

set_option autoImplicit false

/-! Lines leave little room. A line ends where the next piece, or what is broken off it, has no room
any more, so it is together with the blanks behind it and the next line wider than the column. -/

namespace SavingsSite.Text

/-! ### Where a long piece is broken -/

/-- A hyphen with something other than hyphens before it. -/
def Breaks (piece : List Char) (place : Nat) : Prop :=
  piece[place]? = some '-' ∧ ∃ before < place, ∃ c, piece[before]? = some c ∧ c ≠ '-'

theorem Breaks.of_drop {piece : List Char} {start place : Nat}
    (breaks : Breaks (piece.drop start) place) : Breaks piece (start + place) := by
  obtain ⟨hyphen, before, earlier, c, shown, other⟩ := breaks
  rw [List.getElem?_drop] at hyphen shown
  exact ⟨hyphen, start + before, Nat.add_lt_add_left earlier start, c, shown, other⟩

theorem Breaks.later {piece : List Char} {place next : Nat} (breaks : Breaks piece place)
    (behind : place < next) (hyphen : piece[next]? = some '-') : Breaks piece next := by
  obtain ⟨_, before, earlier, other⟩ := breaks
  exact ⟨hyphen, before, Nat.lt_trans earlier behind, other⟩

theorem afterLastHyphen_eq_none {text : List Char} (none : afterLastHyphen text = none) :
    '-' ∉ text := by
  intro member
  simp only [afterLastHyphen] at none
  split at none
  · rename_i all
    rw [List.isEmpty_iff, List.dropWhile_eq_nil_iff] at all
    exact absurd (all '-' (List.mem_reverse.mpr member)) (by decide)
  · cases none

theorem afterLastHyphen_eq_some {text : List Char} {stop : Nat}
    (found : afterLastHyphen text = some stop) :
    ∃ front back, text = front ++ '-' :: back ∧ '-' ∉ back ∧ stop = front.length + 1 := by
  simp only [afterLastHyphen] at found
  have whole := List.takeWhile_append_dropWhile (p := fun c => decide (c ≠ '-')) (l := text.reverse)
  have first := List.head?_dropWhile_not (fun c => decide (c ≠ '-')) text.reverse
  have plain : ∀ c ∈ text.reverse.takeWhile (fun c => decide (c ≠ '-')), c ≠ '-' :=
    fun c member => of_decide_eq_true
      (List.mem_takeWhile_imp (p := fun c => decide (c ≠ '-')) member)
  generalize text.reverse.takeWhile (fun c => decide (c ≠ '-')) = back at whole plain
  cases tail : text.reverse.dropWhile (fun c => decide (c ≠ '-')) with
  | nil =>
      rw [tail] at found
      cases found
  | cons c front =>
      rw [tail] at found whole first
      cases found
      have hyphen : c = '-' := Decidable.of_not_not (of_decide_eq_false first)
      refine ⟨front.reverse, back.reverse, ?_, ?_, ?_⟩
      · rw [← List.reverse_reverse text, ← whole, hyphen, List.reverse_append,
          List.reverse_cons, List.append_assoc, List.singleton_append]
      · exact fun member => plain '-' (List.mem_reverse.mp member) rfl
      · rw [List.length_cons, List.length_reverse]

/-- A long piece is broken behind its last break in reach, and where the room ends without one. -/
theorem breakPoint_cases (room : Nat) (piece : List Char) :
    (∃ place < room, Breaks piece place ∧ breakPoint room piece = place + 1 ∧
      ∀ later, place < later → later < room → ¬ Breaks piece later) ∨
    (breakPoint room piece = room ∧ ∀ place < room, ¬ Breaks piece place) := by
  have inReach {place : Nat} (before : place < room) {c : Char} :
      piece[place]? = some c ↔ (piece.take room)[place]? = some c := by
    rw [List.getElem?_take_of_lt before]
  unfold breakPoint
  split
  · rename_i stop found
    obtain ⟨front, back, reach, plain, rfl⟩ := afterLastHyphen_eq_some found
    have behind {place : Nat} (later : front.length < place) (before : place < room) :
        ¬ Breaks piece place := by
      rintro ⟨hyphen, _⟩
      rw [inReach before, reach, List.getElem?_append_right (Nat.le_of_lt later)] at hyphen
      obtain ⟨index, rfl⟩ := Nat.exists_eq_add_of_lt later
      rw [show front.length + index + 1 - front.length = index + 1 by omega,
        List.getElem?_cons_succ] at hyphen
      exact plain (List.mem_of_getElem? hyphen)
    have within : front.length < room := by
      have bounded := List.length_take_le room piece
      rw [reach, List.length_append, List.length_cons] at bounded
      omega
    have frontAt : piece.take (front.length + 1 - 1) = front := by
      have shorter := congrArg (List.take front.length) reach
      rw [List.take_take, Nat.min_eq_left (Nat.le_of_lt within), List.take_left] at shorter
      exact shorter
    rw [frontAt]
    by_cases other : front.any (· ≠ '-') = true
    · rw [if_pos other]
      obtain ⟨c, member, different⟩ := List.any_eq_true.mp other
      obtain ⟨before, earlier, shown⟩ := List.getElem_of_mem member
      refine Or.inl ⟨front.length, within, ⟨?_, before, earlier, c, ?_,
        of_decide_eq_true different⟩, rfl, fun later => behind⟩
      · rw [inReach within, reach, List.getElem?_append_right (Nat.le_refl _), Nat.sub_self]
        rfl
      · rw [inReach (Nat.lt_trans earlier within), reach, List.getElem?_append_left earlier,
          List.getElem?_eq_getElem earlier, shown]
    · rw [if_neg other]
      refine Or.inr ⟨rfl, fun place before breaks => ?_⟩
      by_cases later : front.length < place
      · exact behind later before breaks
      · obtain ⟨_, earliest, earlier, c, shown, different⟩ := breaks
        have inFront : earliest < front.length := by omega
        rw [inReach (by omega), reach, List.getElem?_append_left inFront] at shown
        exact other (List.any_eq_true.mpr
          ⟨c, List.mem_of_getElem? shown, decide_eq_true different⟩)
  · rename_i found
    refine Or.inr ⟨rfl, fun place before breaks => ?_⟩
    exact afterLastHyphen_eq_none found
      (List.mem_of_getElem? ((inReach before).mp breaks.1))

/-- What is left of a broken piece is broken behind the room of the line that it was broken for. -/
theorem lt_breakPoint_drop {room width : Nat} (within : room ≤ width) (positive : 0 < width)
    (piece : List Char) :
    room < breakPoint room piece + breakPoint width (piece.drop (breakPoint room piece)) := by
  have next := breakPoint_pos width (piece.drop (breakPoint room piece)) positive
  rcases breakPoint_cases room piece with ⟨place, _, _, stop, last⟩ | ⟨stop, _⟩
  · rcases breakPoint_cases width (piece.drop (breakPoint room piece)) with
      ⟨other, _, breaks, nextStop, _⟩ | ⟨nextStop, _⟩
    · have outside : ¬ breakPoint room piece + other < room := fun before =>
        last _ (by omega) before breaks.of_drop
      omega
    · omega
  · omega

/-! ### What a line takes at least -/

/-- The characters that a line takes at least when it starts with a piece. -/
def firstTake (column : Column) (piece : List Char) : Nat :=
  if column.width < piece.length then breakPoint column.width piece else piece.length

theorem firstTake_le (column : Column) (piece : List Char) :
    firstTake column piece ≤ piece.length := by
  unfold firstTake
  split
  · exact Nat.le_trans (breakPoint_le column.width piece) (Nat.le_of_lt ‹_›)
  · exact Nat.le_refl _

/-- The rest of a text would make a line of `used` characters wider than the column. -/
def Overflows (column : Column) (used : Nat) (text : List (List Char)) : Prop :=
  ∀ piece rest, text = piece :: rest → column.width < used + firstTake column piece

theorem takeFrom_overflows {column : Column} {room : Nat} (within : room ≤ column.width)
    {text rest : List (List Char)} {piece : List Char}
    (left : (takeFrom column.width room text).2 = piece :: rest) :
    room < (takeFrom column.width room text).1.flatten.length + firstTake column piece := by
  induction text generalizing room with
  | nil => cases left
  | cons first more ih =>
      by_cases fits : first.length ≤ room
      · rw [takeFrom_of_fits column.width fits] at left ⊢
        have later := ih (Nat.le_trans (Nat.sub_le room first.length) within) left
        rw [List.flatten_cons, List.length_append]
        omega
      · have full := Nat.lt_of_not_le fits
        by_cases long : column.width < first.length
        · rw [takeFrom_of_broken full long] at left ⊢
          cases left
          have stop := breakPoint_le room first
          have next := lt_breakPoint_drop within column.positive first
          rw [List.flatten_singleton, List.length_take]
          unfold firstTake
          split
          · omega
          · rw [List.length_drop]
            omega
        · rw [takeFrom_of_full full (Nat.le_of_not_lt long)] at left ⊢
          cases left
          rw [firstTake, if_neg long]
          exact Nat.lt_of_lt_of_le full (Nat.le_add_left _ _)

theorem takeLine_overflows (column : Column) (text : List (List Char)) :
    Overflows column (takeLine column text).1.flatten.length (takeLine column text).2 := by
  rw [takeLine_eq]
  exact fun piece rest left => takeFrom_overflows (Nat.le_refl column.width) left

theorem takeLine_cons (column : Column) (piece : List Char) (rest : List (List Char)) :
    ∃ first more, (takeLine column (piece :: rest)).1 = first :: more ∧
      firstTake column piece ≤ first.length := by
  rw [takeLine_eq]
  by_cases fits : piece.length ≤ column.width
  · rw [takeFrom_of_fits column.width fits]
    exact ⟨piece, _, rfl, firstTake_le column piece⟩
  · have long := Nat.lt_of_not_le fits
    have stop := breakPoint_le column.width piece
    rw [takeFrom_of_broken long long]
    refine ⟨_, [], rfl, ?_⟩
    rw [firstTake, if_pos long, List.length_take]
    omega

/-! ### Lines in a text -/

/-- Lines stand in a text in their order, with blanks between them. Each line is too wide for the
column together with the blanks in front of it and the `used` characters of the line before. -/
inductive Laid (column : Column) : Nat → List Char → List (List Char) → Prop
  | blank {used : Nat} {text : List Char} (blank : text.all isBlank = true) :
      Laid column used text []
  | line {used : Nat} {gap line rest : List Char} {lines : List (List Char)}
      (blank : gap.all isBlank = true) (wide : column.width < used + gap.length + line.length)
      (later : Laid column line.length rest lines) :
      Laid column used (gap ++ (line ++ rest)) (line :: lines)

theorem Overflows.dropBlankStart {column : Column} {used : Nat} {text : List (List Char)}
    (overflows : Overflows column used text) (started : Bool) :
    ∃ gap, text.flatten = gap ++ (dropBlankStart started text).flatten ∧
      gap.all isBlank = true ∧
      Overflows column (used + gap.length) (Text.dropBlankStart started text) := by
  rcases dropBlankStart_cases started text with same | ⟨piece, rest, rfl, blank, same⟩
  · rw [same]
    exact ⟨[], rfl, rfl, overflows⟩
  · have beyond := overflows piece rest rfl
    have atMost := firstTake_le column piece
    rw [same]
    refine ⟨piece, List.flatten_cons, blank, fun _ _ _ => ?_⟩
    omega

theorem flatten_dropBlankEnd (line : List (List Char)) :
    ∃ gap, line.flatten = (dropBlankEnd line).flatten ++ gap ∧ gap.all isBlank = true := by
  rcases dropBlankEnd_cases line with ⟨front, piece, rfl, blank, kept⟩ | ⟨kept, _⟩
  · rw [kept, List.flatten_append, List.flatten_singleton]
    exact ⟨piece, rfl, blank⟩
  · rw [kept]
    exact ⟨[], (List.append_nil _).symm, rfl⟩

theorem dropBlankEnd_cons (first : List Char) (more : List (List Char))
    (kept : dropBlankEnd (first :: more) ≠ []) :
    ∃ others, dropBlankEnd (first :: more) = first :: others := by
  rcases dropBlankEnd_cases (first :: more) with ⟨front, piece, whole, _, same⟩ | ⟨same, _⟩
  · cases front with
    | nil => exact absurd same kept
    | cons head others =>
        cases whole
        exact ⟨others, same⟩
  · exact ⟨more, same⟩

theorem laid_fill (column : Column) (started : Bool) (text : List (List Char)) :
    ∀ (used : Nat) (gap : List Char), gap.all isBlank = true →
      Overflows column (used + gap.length) text →
      Laid column used (gap ++ text.flatten) (fill column started text) := by
  fun_induction fill column started text with
  | case1 started text start =>
      intro used gap blank overflows
      obtain ⟨dropped, whole, dropBlank, _⟩ := overflows.dropBlankStart started
      rw [start, List.flatten_nil, List.append_nil] at whole
      rw [whole]
      refine .blank ?_
      rw [List.all_append, blank, dropBlank]
      rfl
  | case2 started text piece rest start line none ih =>
      intro used gap blank overflows
      obtain ⟨dropped, whole, dropBlank, beyond⟩ := overflows.dropBlankStart started
      obtain ⟨trailing, lineWhole, trailingBlank⟩ := flatten_dropBlankEnd line.1
      obtain ⟨first, more, lineAt, atLeast⟩ := takeLine_cons column piece rest
      have taken := (takeLine_takes column (piece :: rest)).whole
      have wide := (start ▸ beyond) piece rest rfl
      change line.1 = first :: more at lineAt
      change line.1.flatten ++ line.2.flatten = _ at taken
      rw [none, List.flatten_nil, List.nil_append] at lineWhole
      rw [whole, start, ← taken, lineWhole, ← List.append_assoc, ← List.append_assoc]
      refine ih _ _ ?_ fun _ _ _ => ?_
      · rw [List.all_append, List.all_append, blank, dropBlank, trailingBlank]
        rfl
      · rw [← lineWhole, lineAt]
        simp only [List.length_append, List.flatten_cons]
        omega
  | case3 started text piece rest start line kept ih =>
      intro used gap blank overflows
      obtain ⟨dropped, whole, dropBlank, beyond⟩ := overflows.dropBlankStart started
      obtain ⟨trailing, lineWhole, trailingBlank⟩ := flatten_dropBlankEnd line.1
      obtain ⟨first, more, lineAt, atLeast⟩ := takeLine_cons column piece rest
      have taken := (takeLine_takes column (piece :: rest)).whole
      have wide := (start ▸ beyond) piece rest rfl
      have next := takeLine_overflows column (piece :: rest)
      change line.1 = first :: more at lineAt
      change line.1.flatten ++ line.2.flatten = _ at taken
      change Overflows column line.1.flatten.length line.2 at next
      obtain ⟨others, keptAt⟩ := dropBlankEnd_cons first more (lineAt ▸ kept)
      rw [← lineAt] at keptAt
      rw [whole, start, ← taken, lineWhole, List.append_assoc, ← List.append_assoc gap]
      refine .line ?_ ?_ (ih _ _ trailingBlank ?_)
      · rw [List.all_append, blank, dropBlank]
        rfl
      · rw [keptAt]
        simp only [List.length_append, List.flatten_cons]
        omega
      · rw [lineWhole, List.length_append] at next
        exact next

theorem laid_wrap (column : Column) (text : List Char) :
    Laid column (column.width + 1) (spacedText text) (wrap column text) := by
  rw [← flatten_pieces]
  refine laid_fill column false (pieces text) (column.width + 1) [] rfl fun _ _ _ => ?_
  omega

theorem Laid.neighbours {column : Column} {used : Nat} {text : List Char}
    {front back : List (List Char)} {first next : List Char}
    (laid : Laid column used text (front ++ first :: next :: back)) :
    ∃ before gap after, text = before ++ (first ++ (gap ++ (next ++ after))) ∧
      gap.all isBlank = true ∧
      column.width < first.length + gap.length + next.length := by
  induction front generalizing used text with
  | nil =>
      obtain _ | ⟨_, _, later⟩ := laid
      obtain _ | ⟨blank, wide, _⟩ := later
      exact ⟨_, _, _, rfl, blank, wide⟩
  | cons line front ih =>
      obtain _ | @⟨_, gap, _, _, _, _, _, later⟩ := laid
      obtain ⟨before, between, after, rfl, blank, wide⟩ := ih later
      refine ⟨gap ++ (line ++ before), between, after, ?_, blank, wide⟩
      simp only [List.append_assoc]

theorem Laid.pairs_le {column : Column} :
    ∀ {lines : List (List Char)} {used : Nat} {text : List Char}, Laid column used text lines →
      lines.length / 2 * (column.width + 1) ≤ text.length
  | [], _, _, _ => by
      rw [List.length_nil, Nat.zero_div, Nat.zero_mul]
      exact Nat.zero_le _
  | [_], _, _, _ => by
      rw [List.length_singleton, Nat.div_eq_of_lt Nat.one_lt_two, Nat.zero_mul]
      exact Nat.zero_le _
  | first :: next :: lines, _, _, laid => by
      obtain _ | ⟨_, _, later⟩ := laid
      obtain _ | ⟨_, wide, others⟩ := later
      have pairs := others.pairs_le
      have half : (first :: next :: lines).length / 2 = lines.length / 2 + 1 :=
        Nat.add_div_right lines.length Nat.two_pos
      rw [half, Nat.succ_mul]
      simp only [List.length_append]
      omega

theorem length_spacedText (text : List Char) :
    (spacedText text).length = (expandTabs 0 text).length :=
  List.length_map spaced

end SavingsSite.Text
