import SavingsSite.Proofs.Text.Columns
import SavingsSite.Proofs.Text.Extension

set_option autoImplicit false

/-! What a wider column costs. It never needs more lines than a narrow one but for three things: a
word that only the wide column holds whole, a blank at which no line breaks, such as a no-break space,
and a gap in front of the first word. Each of these costs one line at most. -/

namespace SavingsSite.Text

/-! ### Gaps between words -/

/-- A blank that is no gap: it can make up a word, which is dropped like a gap. -/
def isFirmBlank (c : Char) : Bool := isBlank c && !isGap c

def firmBlanks (text : List Char) : Nat := text.countP isFirmBlank

def leadingGap (text : List Char) : Nat := if text.head?.any isGap then 1 else 0

def dropGap : List (List Char) → List (List Char)
  | [] => []
  | piece :: rest => if piece.all isGap then rest else piece :: rest

/-- Each piece is a gap or has no gap in it, and no gap follows another. -/
inductive Gapped : List (List Char) → Prop
  | nil : Gapped []
  | word {piece : List Char} {rest : List (List Char)} (nonempty : piece ≠ [])
      (plain : ∀ c ∈ piece, isGap c = false) (later : Gapped rest) : Gapped (piece :: rest)
  | gap {piece : List Char} {rest : List (List Char)} (nonempty : piece ≠ [])
      (gaps : piece.all isGap = true) (next : dropGap rest = rest) (later : Gapped rest) :
      Gapped (piece :: rest)

theorem dropGap_of_gap {piece : List Char} (gaps : piece.all isGap = true)
    (rest : List (List Char)) : dropGap (piece :: rest) = rest := by
  rw [dropGap, if_pos gaps]

theorem dropGap_of_first {c : Char} (plain : isGap c = false) (more : List Char)
    (rest : List (List Char)) : dropGap ((c :: more) :: rest) = (c :: more) :: rest := by
  rw [dropGap, List.all_cons, plain, Bool.false_and, if_neg Bool.false_ne_true]

theorem dropGap_of_word {piece : List Char} (nonempty : piece ≠ [])
    (plain : ∀ c ∈ piece, isGap c = false) (rest : List (List Char)) :
    dropGap (piece :: rest) = piece :: rest := by
  obtain ⟨c, more, rfl⟩ := List.exists_cons_of_ne_nil nonempty
  exact dropGap_of_first (plain c List.mem_cons_self) more rest

theorem all_isBlank_of_gap {piece : List Char} (gaps : piece.all isGap = true) :
    piece.all isBlank = true := by
  rw [List.all_eq_true] at gaps ⊢
  exact fun c member => isBlank_of_isGap (gaps c member)

theorem Gapped.tail {piece : List Char} {rest : List (List Char)}
    (gapped : Gapped (piece :: rest)) : Gapped rest := by
  cases gapped with
  | word _ _ later => exact later
  | gap _ _ _ later => exact later

theorem Gapped.first_ne_nil {piece : List Char} {rest : List (List Char)}
    (gapped : Gapped (piece :: rest)) : piece ≠ [] := by
  cases gapped with
  | word nonempty _ _ => exact nonempty
  | gap nonempty _ _ _ => exact nonempty

theorem Gapped.drop {piece : List Char} {rest : List (List Char)}
    (gapped : Gapped (piece :: rest)) {count : Nat} (inside : count < piece.length) :
    Gapped (piece.drop count :: rest) := by
  have nonempty : piece.drop count ≠ [] := by
    rw [ne_eq, List.drop_eq_nil_iff]
    omega
  cases gapped with
  | word _ plain later =>
      exact .word nonempty (fun c member => plain c (List.mem_of_mem_drop member)) later
  | gap _ gaps next later =>
      rw [List.all_eq_true] at gaps
      refine .gap nonempty (List.all_eq_true.mpr fun c member => ?_) next later
      exact gaps c (List.mem_of_mem_drop member)

theorem Gapped.dropBlankStart {text : List (List Char)} (gapped : Gapped text) (started : Bool) :
    Gapped (dropBlankStart started text) := by
  rcases dropBlankStart_cases started text with same | ⟨piece, rest, rfl, _, same⟩
  · rw [same]
    exact gapped
  · rw [same]
    exact gapped.tail

theorem Gapped.takeFrom {text : List (List Char)} (gapped : Gapped text) (width room : Nat) :
    Gapped (takeFrom width room text).2 := by
  induction text generalizing room with
  | nil => exact .nil
  | cons piece rest ih =>
      by_cases fits : piece.length ≤ room
      · rw [takeFrom_of_fits width fits]
        exact ih gapped.tail _
      · have full := Nat.lt_of_not_le fits
        by_cases long : width < piece.length
        · rw [takeFrom_of_broken full long]
          exact gapped.drop (Nat.lt_of_le_of_lt (breakPoint_le room piece) full)
        · rw [takeFrom_of_full full (Nat.le_of_not_lt long)]
          exact gapped

theorem Gapped.takeLine {text : List (List Char)} (gapped : Gapped text) (column : Column) :
    Gapped (takeLine column text).2 := by
  rw [takeLine_eq]
  exact gapped.takeFrom column.width column.width

/-! ### The pieces of a text -/

theorem breaksBetween_gap_gap (behind ahead : List Glyph) :
    breaksBetween (.gap :: behind) (.gap :: ahead) = false := rfl

theorem breaksBetween_of_ne {b a : Glyph} (different : (b == Glyph.gap) ≠ (a == Glyph.gap))
    (behind ahead : List Glyph) : breaksBetween (b :: behind) (a :: ahead) = true := by
  rw [breaksBetween, bne_iff_ne.mpr different]
  rfl

theorem Gapped.single (c : Char) : Gapped [[c]] := by
  cases kind : isGap c with
  | true =>
      refine .gap (List.cons_ne_nil c []) ?_ rfl .nil
      rw [List.all_cons, kind]
      rfl
  | false =>
      exact .word (List.cons_ne_nil c []) (List.forall_mem_singleton.mpr kind) .nil

theorem Gapped.apart {c d : Char} {more : List Char} {others : List (List Char)}
    (later : Gapped ((d :: more) :: others)) (unlike : isGap c = true → isGap d = false) :
    Gapped ([c] :: (d :: more) :: others) := by
  cases kind : isGap c with
  | true =>
      refine .gap (List.cons_ne_nil c []) ?_ (dropGap_of_first (unlike kind) more others) later
      rw [List.all_cons, kind]
      rfl
  | false =>
      exact .word (List.cons_ne_nil c []) (List.forall_mem_singleton.mpr kind) later

theorem Gapped.joined {c d : Char} {more : List Char} {others : List (List Char)}
    (later : Gapped ((d :: more) :: others)) (alike : isGap c = isGap d) :
    Gapped ((c :: d :: more) :: others) := by
  cases later with
  | word _ plain later =>
      refine .word (List.cons_ne_nil c _) (List.forall_mem_cons.mpr ⟨?_, plain⟩) later
      exact alike.trans (plain d List.mem_cons_self)
  | gap _ gaps next later =>
      refine .gap (List.cons_ne_nil c _) ?_ next later
      rw [List.all_cons, gaps, alike, List.all_eq_true.mp gaps d List.mem_cons_self]
      rfl

theorem gapped_piecesFrom (behind : List Glyph) (text : List Char)
    (same : ∀ c ∈ text, isGap c = (Glyph.ofChar c == Glyph.gap)) :
    Gapped (piecesFrom behind text (text.map Glyph.ofChar)) := by
  induction text generalizing behind with
  | nil => exact .nil
  | cons c rest ih =>
      obtain ⟨sameFirst, sameRest⟩ := List.forall_mem_cons.mp same
      have later := ih (Glyph.ofChar c :: behind) sameRest
      have whole := flatten_piecesFrom (Glyph.ofChar c :: behind) rest _
        (List.length_map Glyph.ofChar).symm
      rw [List.map_cons, piecesFrom]
      cases cut : piecesFrom (Glyph.ofChar c :: behind) rest (rest.map Glyph.ofChar) with
      | nil => exact .single c
      | cons piece others =>
          rw [cut] at later whole
          obtain ⟨d, more, rfl⟩ := List.exists_cons_of_ne_nil later.first_ne_nil
          rw [List.flatten_cons, List.cons_append] at whole
          have sameNext : isGap d = (Glyph.ofChar d == Glyph.gap) :=
            sameRest d (whole ▸ List.mem_cons_self)
          rw [← whole, List.map_cons]
          simp only
          split
          · rename_i breaks
            refine later.apart fun kind => ?_
            by_contra next
            rw [Bool.not_eq_false] at next
            rw [kind] at sameFirst
            rw [next] at sameNext
            rw [eq_of_beq sameFirst.symm, eq_of_beq sameNext.symm,
              breaksBetween_gap_gap] at breaks
            cases breaks
          · rename_i unbroken
            refine later.joined ?_
            rw [sameFirst, sameNext]
            by_contra different
            exact unbroken (breaksBetween_of_ne different _ _)

theorem isGap_spaced (c : Char) : isGap (spaced c) = isGap c := by
  unfold spaced
  split
  · rename_i gap
    rw [gap]
    rfl
  · rfl

theorem gapped_pieces (text : List Char) : Gapped (pieces text) := by
  refine gapped_piecesFrom [] (spacedText text) fun c member => ?_
  obtain ⟨d, _, rfl⟩ := List.mem_map.mp member
  rw [spaced]
  split
  · rfl
  · rename_i plain
    rw [Bool.not_eq_true] at plain
    rw [plain, eq_comm, beq_eq_false_iff_ne]
    intro gap
    rw [(ofChar_eq_gap_iff d).mp gap] at plain
    cases plain

theorem firmBlanks_append (first rest : List Char) :
    firmBlanks (first ++ rest) = firmBlanks first + firmBlanks rest :=
  List.countP_append

theorem firmBlanks_spacedText (text : List Char) :
    firmBlanks (spacedText text) = firmBlanks text := by
  have blind : ∀ c, isGap c = true → isFirmBlank c = false := by
    intro c gap
    rw [isFirmBlank, gap, Bool.not_true, Bool.and_false]
  rw [firmBlanks, firmBlanks, List.countP_eq_length_filter, List.countP_eq_length_filter,
    filter_spacedText blind]

theorem leadingGap_spacedText (text : List Char) :
    leadingGap (spacedText text) = leadingGap text := by
  cases text with
  | nil => rfl
  | cons c rest =>
      have first : (spacedText (c :: rest)).head?.any isGap = isGap c := by
        rw [spacedText, expandTabs]
        by_cases tab : c = '\t'
        · rw [if_pos tab, tab]
          rfl
        · rw [if_neg tab]
          split
          · exact isGap_spaced c
          · exact isGap_spaced c
      rw [leadingGap, leadingGap, first]
      rfl

/-! ### Lines that are dropped -/

theorem Ahead.flatten_suffix {later text : List (List Char)} (ahead : Ahead later text) :
    later.flatten <:+ text.flatten := by
  induction ahead with
  | nil => exact List.suffix_refl []
  | cut piece rest count =>
      rw [List.flatten_cons, List.flatten_cons]
      obtain ⟨front, whole⟩ := List.drop_suffix count piece
      exact ⟨front, by rw [← List.append_assoc, whole]⟩
  | past piece _ ih => exact ih.trans (List.suffix_append piece _)

theorem Ahead.firmBlanks_le {later text : List (List Char)} (ahead : Ahead later text) :
    firmBlanks later.flatten ≤ firmBlanks text.flatten :=
  ahead.flatten_suffix.sublist.countP_le

theorem firmBlanks_pos {text : List Char} (nonempty : text ≠ []) (blank : text.all isBlank = true)
    (plain : ∀ c ∈ text, isGap c = false) : 0 < firmBlanks text := by
  obtain ⟨c, rest, rfl⟩ := List.exists_cons_of_ne_nil nonempty
  refine List.countP_pos_iff.mpr ⟨c, List.mem_cons_self, ?_⟩
  rw [isFirmBlank, List.all_eq_true.mp blank c List.mem_cons_self, plain c List.mem_cons_self]
  rfl

theorem takeLine_of_dropped {column : Column} {piece : List Char} {rest : List (List Char)}
    (dropped : dropBlankEnd (takeLine column (piece :: rest)).1 = []) :
    (piece.all isBlank = true ∧ (takeLine column (piece :: rest)).2 = rest) ∨
    ∃ stop, 0 < stop ∧ stop < piece.length ∧ (piece.take stop).all isBlank = true ∧
      (takeLine column (piece :: rest)).2 = piece.drop stop :: rest := by
  have one {line : List (List Char)} {first : List Char} {more : List (List Char)}
      (lineAt : line = first :: more) (none : dropBlankEnd line = []) :
      more = [] ∧ first.all isBlank = true := by
    rcases dropBlankEnd_cases line with ⟨front, last, whole, blank, same⟩ | ⟨same, _⟩
    · rw [same] at none
      rw [none, lineAt] at whole
      cases whole
      exact ⟨rfl, blank⟩
    · rw [none, lineAt] at same
      cases same
  rw [takeLine_eq] at dropped ⊢
  by_cases fits : piece.length ≤ column.width
  · rw [takeFrom_of_fits column.width fits] at dropped ⊢
    obtain ⟨alone, blank⟩ := one rfl dropped
    refine Or.inl ⟨blank, ?_⟩
    cases rest with
    | nil => rfl
    | cons next others =>
        by_cases nextFits : next.length ≤ column.width - piece.length
        · rw [takeFrom_of_fits column.width nextFits] at alone
          cases alone
        · have full := Nat.lt_of_not_le nextFits
          by_cases long : column.width < next.length
          · rw [takeFrom_of_broken full long] at alone
            cases alone
          · rw [takeFrom_of_full full (Nat.le_of_not_lt long)]
  · have long := Nat.lt_of_not_le fits
    rw [takeFrom_of_broken long long] at dropped ⊢
    exact Or.inr ⟨_, breakPoint_pos column.width piece column.positive,
      Nat.lt_of_le_of_lt (breakPoint_le column.width piece) long, (one rfl dropped).2, rfl⟩

theorem Gapped.of_dropped {column : Column} {piece : List Char} {rest : List (List Char)}
    (gapped : Gapped (piece :: rest))
    (dropped : dropBlankEnd (Text.takeLine column (piece :: rest)).1 = []) :
    (piece.all isGap = true ∧ dropGap (Text.takeLine column (piece :: rest)).2 = rest) ∨
    firmBlanks (Text.takeLine column (piece :: rest)).2.flatten <
      firmBlanks (piece :: rest).flatten := by
  have left := takeLine_of_dropped dropped
  cases gapped with
  | gap _ gaps next _ =>
      refine Or.inl ⟨gaps, ?_⟩
      rcases left with ⟨_, left⟩ | ⟨stop, _, _, _, left⟩
      · rw [left, next]
      · rw [left]
        refine dropGap_of_gap (List.all_eq_true.mpr fun c member => ?_) rest
        exact List.all_eq_true.mp gaps c (List.mem_of_mem_drop member)
  | word nonempty plain _ =>
      refine Or.inr ?_
      rcases left with ⟨blank, left⟩ | ⟨stop, positive, inside, blank, left⟩
      · have firm := firmBlanks_pos nonempty blank plain
        rw [left, List.flatten_cons, firmBlanks_append]
        omega
      · have taken : piece.take stop ≠ [] := by
          refine List.ne_nil_of_length_pos ?_
          rw [List.length_take]
          omega
        have firm := firmBlanks_pos taken blank
          fun c member => plain c (List.mem_of_mem_take member)
        have parts := congrArg firmBlanks (List.take_append_drop stop piece)
        rw [firmBlanks_append] at parts
        rw [left, List.flatten_cons, List.flatten_cons, firmBlanks_append, firmBlanks_append]
        omega

theorem firmBlanks_lt_of_dropped {column : Column} {text rest : List (List Char)}
    {piece : List Char} (gapped : Gapped text) (start : dropBlankStart true text = piece :: rest)
    (dropped : dropBlankEnd (takeLine column (piece :: rest)).1 = []) :
    firmBlanks (takeLine column (piece :: rest)).2.flatten < firmBlanks text.flatten := by
  have ahead := ahead_dropBlankStart true text
  have gappedStart := gapped.dropBlankStart true
  rw [start] at ahead gappedStart
  rcases gappedStart.of_dropped dropped with ⟨gaps, _⟩ | fewer
  · have blank := all_isBlank_of_gap gaps
    have behind := ahead_takeFrom column.width column.width (piece :: rest)
    rw [← takeLine_eq] at behind
    rcases dropBlankStart_cases true text with same | ⟨first, others, rfl, firstBlank, same⟩
    · rw [start] at same
      subst same
      rw [dropBlankStart_of_blank blank] at start
      exact absurd (congrArg List.length start) (Nat.ne_of_lt (Nat.lt_succ_self _))
    · rw [start] at same
      subst same
      cases gapped with
      | gap _ _ next _ =>
          rw [dropGap_of_gap gaps] at next
          exact absurd (congrArg List.length next) (Nat.ne_of_lt (Nat.lt_succ_self _))
      | word nonempty plain _ =>
          have firm := firmBlanks_pos nonempty firstBlank plain
          have atMost := behind.firmBlanks_le
          rw [List.flatten_cons, firmBlanks_append]
          omega
  · exact Nat.lt_of_lt_of_le fewer ahead.firmBlanks_le

/-! ### Lines that are kept -/

theorem Gapped.left {started : Bool} {text rest : List (List Char)} {piece : List Char}
    (gapped : Gapped text) (start : Text.dropBlankStart started text = piece :: rest)
    (column : Column) : Gapped (Text.takeLine column (piece :: rest)).2 :=
  (start ▸ gapped.dropBlankStart started).takeLine column

theorem ahead_left {started : Bool} {text rest : List (List Char)} {piece : List Char}
    (start : dropBlankStart started text = piece :: rest) (column : Column) :
    Ahead (takeLine column (piece :: rest)).2 text := by
  have ahead := ahead_dropBlankStart started text
  rw [start] at ahead
  rw [takeLine_eq]
  exact (ahead_takeFrom column.width column.width (piece :: rest)).trans ahead

theorem dropBlankStart_false (text : List (List Char)) : dropBlankStart false text = text := by
  rcases dropBlankStart_cases false text with same | ⟨piece, rest, rfl, _, _⟩
  · exact same
  · rw [dropBlankStart, Bool.false_and, if_neg Bool.false_ne_true]

theorem rounds_of_start {column : Column} {started : Bool} {text rest : List (List Char)}
    {piece : List Char} (start : dropBlankStart started text = piece :: rest) :
    rounds column (dropBlankStart started text) =
      rounds column (dropBlankStart true (takeLine column (piece :: rest)).2) + 1 := by
  rw [start, rounds]

theorem ahead_dropGap (text : List (List Char)) : Ahead (dropGap text) text := by
  cases text with
  | nil => exact .nil
  | cons piece rest =>
      rw [dropGap]
      split
      · exact .past piece (.refl rest)
      · exact .refl _

theorem ahead_dropBlankStart_dropGap (text : List (List Char)) :
    Ahead (dropBlankStart true text) (dropGap text) := by
  cases text with
  | nil => exact .nil
  | cons piece rest =>
      by_cases gaps : piece.all isGap = true
      · rw [dropGap_of_gap gaps, dropBlankStart_of_blank (all_isBlank_of_gap gaps)]
        exact .refl rest
      · rw [dropGap, if_neg gaps]
        exact ahead_dropBlankStart true (piece :: rest)

theorem rounds_le_fill_started (column : Column) (started : Bool) (text : List (List Char)) :
    started = true → Gapped text → rounds column (dropBlankStart true text) ≤
      (fill column started text).length + firmBlanks text.flatten := by
  fun_induction fill column started text with
  | case1 started text start =>
      rintro rfl _
      rw [start, rounds]
      exact Nat.zero_le _
  | case2 started text piece rest start line dropped ih =>
      rintro rfl gapped
      have later := ih rfl (gapped.left start column)
      have fewer : firmBlanks line.2.flatten < _ := firmBlanks_lt_of_dropped gapped start dropped
      have once : _ = rounds column (dropBlankStart true line.2) + 1 := rounds_of_start start
      omega
  | case3 started text piece rest start line kept ih =>
      rintro rfl gapped
      have later := ih rfl (gapped.left start column)
      have fewer : firmBlanks line.2.flatten ≤ _ := (ahead_left start column).firmBlanks_le
      have once : _ = rounds column (dropBlankStart true line.2) + 1 := rounds_of_start start
      rw [List.length_cons]
      omega

theorem rounds_le_fill (column : Column) (started : Bool) (text : List (List Char)) :
    started = false → Gapped text → rounds column (dropGap text) ≤
      (fill column started text).length + firmBlanks text.flatten := by
  fun_induction fill column started text with
  | case1 started text start =>
      rintro rfl _
      rw [dropBlankStart_false] at start
      rw [start, dropGap, rounds]
      exact Nat.zero_le _
  | case2 started text piece rest start line dropped ih =>
      rintro rfl gapped
      have once : _ = rounds column (dropBlankStart true line.2) + 1 := rounds_of_start start
      have less := (ahead_dropGap text).rounds_le column
      have more := (ahead_dropBlankStart_dropGap line.2).rounds_le column
      have fewer : firmBlanks line.2.flatten ≤ _ := (ahead_left start column).firmBlanks_le
      have later := ih rfl (gapped.left start column)
      rw [dropBlankStart_false] at start once
      subst start
      rcases gapped.of_dropped dropped with ⟨gaps, left⟩ | fewer
      · rw [dropGap_of_gap gaps]
        change dropGap line.2 = rest at left
        rw [left] at later
        omega
      · change firmBlanks line.2.flatten < _ at fewer
        omega
  | case3 started text piece rest start line kept _ =>
      rintro rfl gapped
      have once : _ = rounds column (dropBlankStart true line.2) + 1 := rounds_of_start start
      have less := (ahead_dropGap text).rounds_le column
      have fewer : firmBlanks line.2.flatten ≤ _ := (ahead_left start column).firmBlanks_le
      have later := rounds_le_fill_started column true line.2 rfl (gapped.left start column)
      rw [dropBlankStart_false] at once
      rw [List.length_cons]
      omega

theorem length_fill_started_le (column : Column) (started : Bool) (text : List (List Char)) :
    started = true →
      (fill column started text).length ≤ rounds column (dropBlankStart true text) := by
  fun_induction fill column started text with
  | case1 started text start =>
      rintro rfl
      exact Nat.zero_le _
  | case2 started text piece rest start line dropped ih =>
      rintro rfl
      have later := ih rfl
      have once : _ = rounds column (dropBlankStart true line.2) + 1 := rounds_of_start start
      omega
  | case3 started text piece rest start line kept ih =>
      rintro rfl
      have later := ih rfl
      have once : _ = rounds column (dropBlankStart true line.2) + 1 := rounds_of_start start
      rw [List.length_cons]
      omega

theorem length_fill_le_succ (column : Column) (started : Bool) (text : List (List Char)) :
    started = false →
      (fill column started text).length ≤ rounds column (dropBlankStart true text) + 1 := by
  fun_induction fill column started text with
  | case1 started text start =>
      rintro rfl
      exact Nat.zero_le _
  | case2 started text piece rest start line dropped ih =>
      rintro rfl
      have later := ih rfl
      have less : rounds column (dropBlankStart true line.2) ≤ _ :=
        (ahead_left start column).dropBlankStart.rounds_le column
      omega
  | case3 started text piece rest start line kept _ =>
      rintro rfl
      have later := length_fill_started_le column true line.2 rfl
      have less : rounds column (dropBlankStart true line.2) ≤ _ :=
        (ahead_left start column).dropBlankStart.rounds_le column
      rw [List.length_cons]
      omega

theorem length_fill_le_rounds (column : Column) (text : List (List Char)) :
    (fill column false text).length ≤ rounds column text := by
  cases text with
  | nil =>
      rw [fill]
      exact Nat.zero_le _
  | cons piece rest =>
      have start := dropBlankStart_false (piece :: rest)
      rw [rounds]
      by_cases dropped : dropBlankEnd (takeLine column (piece :: rest)).1 = []
      · rw [fill_of_dropped start dropped]
        exact length_fill_le_succ column false _ rfl
      · rw [fill_of_kept start dropped, List.length_cons]
        exact Nat.succ_le_succ (length_fill_started_le column true _ rfl)

/-! ### A wider column -/

/-- The lines that a wider column may need more than a narrow one. -/
def widening (narrow wide : Nat) (text : List Char) : Nat :=
  longWords narrow wide (pieces text).tail + firmBlanks text + leadingGap text

theorem length_fill_le_of_wider {narrow wide : Column} (narrower : narrow.width ≤ wide.width)
    {text : List (List Char)} (gapped : Gapped text) :
    (fill wide false text).length ≤ (fill narrow false text).length +
      (longWords narrow.width wide.width text.tail + firmBlanks text.flatten +
        leadingGap text.flatten) := by
  have counted := rounds_le_fill narrow false text rfl gapped
  cases gapped with
  | nil =>
      rw [fill]
      exact Nat.zero_le _
  | @word piece rest nonempty plain _ =>
      have lines := length_fill_le_rounds wide (piece :: rest)
      have compared := rounds_le_of_ahead narrower (piece :: rest) _ (.refl _)
      rw [dropGap_of_word nonempty plain] at counted
      omega
  | @gap piece rest nonempty gaps next _ =>
      have lines := length_fill_le_succ wide false (piece :: rest) rfl
      have compared := rounds_le_of_ahead narrower rest rest (.refl rest)
      have fewer : longWords narrow.width wide.width rest.tail ≤
          longWords narrow.width wide.width (piece :: rest).tail :=
        longWords_le_of_suffix (List.tail_suffix rest)
      have leading : leadingGap (piece :: rest).flatten = 1 := by
        obtain ⟨c, more, rfl⟩ := List.exists_cons_of_ne_nil nonempty
        exact if_pos (List.all_eq_true.mp gaps c List.mem_cons_self)
      rw [dropBlankStart_of_blank (all_isBlank_of_gap gaps)] at lines
      rw [dropGap_of_gap gaps] at counted
      omega

/-- A wider column never needs more lines, but for its long words, its firm blanks and a gap in
front. -/
theorem length_wrap_le_of_wider {narrow wide : Column} (narrower : narrow.width ≤ wide.width)
    (text : List Char) : (wrap wide text).length ≤
      (wrap narrow text).length + widening narrow.width wide.width text := by
  have lines := length_fill_le_of_wider narrower (gapped_pieces text)
  rw [flatten_pieces, firmBlanks_spacedText, leadingGap_spacedText] at lines
  exact lines

end SavingsSite.Text
