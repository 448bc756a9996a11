import SavingsSite.Text.Wrap

set_option autoImplicit false

/-! Lines keep what can be seen. Expanding tabs, cutting a text into pieces, filling lines with them
and dropping the blanks at which lines end changes none of the other characters, and a line has at
least one character and no more than the column is wide. -/

namespace SavingsSite.Text

def visible (text : List Char) : List Char := text.filter (!isBlank ·)

theorem visible_append (first rest : List Char) :
    visible (first ++ rest) = visible first ++ visible rest :=
  List.filter_append first rest

theorem visible_of_blank {text : List Char} (blank : text.all isBlank = true) :
    visible text = [] := by
  rw [visible, List.filter_eq_nil_iff]
  intro c member
  rw [List.all_eq_true.mp blank c member]
  exact Bool.false_ne_true

/-! ### Spaces in place of gaps -/

theorem isBlank_of_isGap {c : Char} (gap : isGap c = true) : isBlank c = true := by
  simp only [isGap, Bool.or_eq_true, decide_eq_true_eq] at gap
  rcases gap with ((((rfl | rfl) | rfl) | rfl) | rfl) | rfl <;> rfl

theorem length_expandTabs_le (column : Nat) (text : List Char) :
    (expandTabs column text).length ≤ 8 * text.length := by
  induction text generalizing column with
  | nil => exact Nat.zero_le _
  | cons c rest ih =>
      rw [expandTabs, List.length_cons]
      split
      · have later := ih (column + (8 - column % 8))
        rw [List.length_append, List.length_replicate]
        omega
      · split
        · have later := ih 0
          rw [List.length_cons]
          omega
        · have later := ih (column + 1)
          rw [List.length_cons]
          omega

section

variable {keep : Char → Bool} (blind : ∀ c, isGap c = true → keep c = false)
include blind

theorem filter_expandTabs (column : Nat) (text : List Char) :
    (expandTabs column text).filter keep = text.filter keep := by
  induction text generalizing column with
  | nil => rfl
  | cons c rest ih =>
      rw [expandTabs]
      by_cases tab : c = '\t'
      · have spaces (count : Nat) : (List.replicate count ' ').filter keep = [] := by
          rw [List.filter_replicate, blind ' ' rfl, if_neg Bool.false_ne_true]
        rw [if_pos tab, List.filter_append, spaces, List.nil_append, ih, tab, List.filter_cons,
          blind '\t' rfl, if_neg Bool.false_ne_true]
      · rw [if_neg tab]
        split
        · rw [List.filter_cons, List.filter_cons, ih]
        · rw [List.filter_cons, List.filter_cons, ih]

theorem filter_spacedText (text : List Char) :
    (spacedText text).filter keep = text.filter keep := by
  have kept (plain : List Char) : (plain.map spaced).filter keep = plain.filter keep := by
    induction plain with
    | nil => rfl
    | cons c rest ih =>
        rw [List.map_cons, spaced, List.filter_cons, List.filter_cons, ih]
        by_cases gap : isGap c = true
        · rw [if_pos gap, blind ' ' rfl, blind c gap]
          rfl
        · rw [if_neg gap]
  rw [spacedText, kept, filter_expandTabs blind]

end

theorem visible_spacedText (text : List Char) : visible (spacedText text) = visible text := by
  refine filter_spacedText (fun c gap => ?_) text
  rw [isBlank_of_isGap gap]
  rfl

/-! ### Pieces -/

def Solid (text : List (List Char)) : Prop := ∀ piece ∈ text, piece ≠ []

theorem solid_cons_iff (piece : List Char) (rest : List (List Char)) :
    Solid (piece :: rest) ↔ piece ≠ [] ∧ Solid rest :=
  List.forall_mem_cons

theorem flatten_piecesFrom (behind : List Glyph) (text : List Char) (ahead : List Glyph)
    (same : text.length = ahead.length) : (piecesFrom behind text ahead).flatten = text := by
  induction text generalizing behind ahead with
  | nil =>
      cases ahead with
      | nil => rfl
      | cons g more => cases same
  | cons c rest ih =>
      cases ahead with
      | nil => cases same
      | cons g more =>
          have later := ih (g :: behind) more (Nat.succ.inj same)
          rw [piecesFrom]
          cases cut : piecesFrom (g :: behind) rest more with
          | nil =>
              rw [cut] at later
              exact congrArg (List.cons c) later
          | cons piece others =>
              rw [cut] at later
              simp only
              split
              · exact congrArg (List.cons c) later
              · exact congrArg (List.cons c) later

theorem flatten_pieces (text : List Char) : (pieces text).flatten = spacedText text :=
  flatten_piecesFrom [] (spacedText text) _ (List.length_map Glyph.ofChar).symm

theorem solid_piecesFrom (behind : List Glyph) (text : List Char) (ahead : List Glyph) :
    Solid (piecesFrom behind text ahead) := by
  induction text generalizing behind ahead with
  | nil =>
      rw [piecesFrom]
      · exact List.forall_mem_nil _
      · intro c more g others impossible
        cases impossible
  | cons c rest ih =>
      cases ahead with
      | nil =>
          rw [piecesFrom]
          · exact List.forall_mem_nil _
          · intro d more g others _ impossible
            cases impossible
      | cons g more =>
          have later := ih (g :: behind) more
          rw [piecesFrom]
          cases cut : piecesFrom (g :: behind) rest more with
          | nil => exact List.forall_mem_singleton.mpr (List.cons_ne_nil c [])
          | cons piece others =>
              rw [cut, solid_cons_iff] at later
              simp only
              split
              · exact (solid_cons_iff _ _).mpr
                  ⟨List.cons_ne_nil c [], (solid_cons_iff piece others).mpr later⟩
              · exact (solid_cons_iff _ _).mpr ⟨List.cons_ne_nil c piece, later.2⟩

/-! ### One line -/

/-- The pieces that a line with `room` columns left takes, and the pieces that it leaves. -/
def takeFrom (width room : Nat) : List (List Char) → List (List Char) × List (List Char)
  | [] => ([], [])
  | piece :: rest =>
      if piece.length ≤ room then
        let (taken, left) := takeFrom width (room - piece.length) rest
        (piece :: taken, left)
      else if width < piece.length then
        ([piece.take (breakPoint room piece)], piece.drop (breakPoint room piece) :: rest)
      else ([], piece :: rest)

theorem takeFrom_of_fits (width : Nat) {room : Nat} {piece : List Char} (fits : piece.length ≤ room)
    (rest : List (List Char)) :
    takeFrom width room (piece :: rest) = (piece :: (takeFrom width (room - piece.length) rest).1,
      (takeFrom width (room - piece.length) rest).2) := by
  rw [takeFrom, if_pos fits]

theorem takeFrom_of_broken {width room : Nat} {piece : List Char} (full : room < piece.length)
    (long : width < piece.length) (rest : List (List Char)) :
    takeFrom width room (piece :: rest) =
      ([piece.take (breakPoint room piece)], piece.drop (breakPoint room piece) :: rest) := by
  rw [takeFrom, if_neg (Nat.not_le_of_lt full), if_pos long]

theorem takeFrom_of_full {width room : Nat} {piece : List Char} (full : room < piece.length)
    (short : piece.length ≤ width) (rest : List (List Char)) :
    takeFrom width room (piece :: rest) = ([], piece :: rest) := by
  rw [takeFrom, if_neg (Nat.not_le_of_lt full), if_neg (Nat.not_lt_of_le short)]

theorem takeFrom_eq (width room : Nat) (text : List (List Char)) :
    takeFrom width room text =
      match (splitFit room text).2 with
      | [] => ((splitFit room text).1, [])
      | piece :: rest =>
          if width < piece.length then
            let stop := breakPoint (room - (splitFit room text).1.flatten.length) piece
            ((splitFit room text).1 ++ [piece.take stop], piece.drop stop :: rest)
          else ((splitFit room text).1, (splitFit room text).2) := by
  induction text generalizing room with
  | nil => rfl
  | cons piece rest ih =>
      by_cases fits : piece.length ≤ room
      · have split : splitFit room (piece :: rest) =
            (piece :: (splitFit (room - piece.length) rest).1,
              (splitFit (room - piece.length) rest).2) := by
          rw [splitFit, if_pos fits]
        rw [takeFrom_of_fits width fits, ih, split]
        generalize splitFit (room - piece.length) rest = cut
        obtain ⟨taken, left⟩ := cut
        cases left with
        | nil => rfl
        | cons next others =>
            have used : room - (piece :: taken).flatten.length =
                room - piece.length - taken.flatten.length := by
              rw [List.flatten_cons, List.length_append]
              omega
            simp only [used]
            split
            · rfl
            · rfl
      · have split : splitFit room (piece :: rest) = ([], piece :: rest) := by
          rw [splitFit, if_neg fits]
        rw [split, takeFrom, if_neg fits]
        rfl

theorem takeLine_eq (column : Column) (text : List (List Char)) :
    takeLine column text = takeFrom column.width column.width text := by
  rw [takeFrom_eq]
  rfl

theorem length_splitFit_le (room : Nat) (text : List (List Char)) :
    (splitFit room text).1.flatten.length ≤ room := by
  induction text generalizing room with
  | nil => exact Nat.zero_le room
  | cons piece rest ih =>
      unfold splitFit
      by_cases fits : piece.length ≤ room
      · have later := ih (room - piece.length)
        rw [if_pos fits]
        simp only [List.flatten_cons, List.length_append]
        omega
      · rw [if_neg fits]
        exact Nat.zero_le room

theorem breakPoint_le (room : Nat) (piece : List Char) : breakPoint room piece ≤ room := by
  unfold breakPoint
  split
  · rename_i stop found
    split
    · simp only [afterLastHyphen] at found
      split at found
      · cases found
      · cases found
        calc ((piece.take room).reverse.dropWhile (· ≠ '-')).length
            ≤ (piece.take room).reverse.length := (List.dropWhile_suffix _).length_le
          _ ≤ room := by
            rw [List.length_reverse]
            exact List.length_take_le room piece
    · exact Nat.le_refl room
  · exact Nat.le_refl room

/-- A line taken from some pieces and the pieces that are left. Only the last piece of a line may
be empty: it is what a long piece leaves in a line without room. -/
structure Takes (column : Column) (text line left : List (List Char)) : Prop where
  whole : line.flatten ++ left.flatten = text.flatten
  fits : line.flatten.length ≤ column.width
  solid : Solid text → Solid line.dropLast ∧ Solid left

theorem takeLine_takes (column : Column) (text : List (List Char)) :
    Takes column text (takeLine column text).1 (takeLine column text).2 := by
  have whole := splitFit_append column.width text
  have fits := length_splitFit_le column.width text
  unfold takeLine
  generalize splitFit column.width text = cut at whole fits
  obtain ⟨taken, left⟩ := cut
  simp only at whole fits ⊢
  subst whole
  cases left with
  | nil =>
      refine ⟨List.flatten_append.symm, fits, fun solid => ⟨?_, List.forall_mem_nil _⟩⟩
      intro piece member
      exact solid piece (List.mem_append_left [] (List.dropLast_subset _ member))
  | cons piece rest =>
      by_cases wide : column.width < piece.length
      · have stop := breakPoint_le (column.width - taken.flatten.length) piece
        simp only [if_pos wide]
        generalize breakPoint (column.width - taken.flatten.length) piece = place at stop
        constructor
        · simp only [List.flatten_append, List.flatten_cons, List.flatten_nil, List.append_nil,
            List.append_assoc]
          rw [← List.append_assoc (piece.take place), List.take_append_drop]
        · simp only [List.flatten_append, List.flatten_cons, List.flatten_nil, List.append_nil,
            List.length_append, List.length_take]
          omega
        · intro solid
          have nonempty : piece.drop place ≠ [] := by
            rw [ne_eq, List.drop_eq_nil_iff]
            omega
          have others : Solid rest := fun other member =>
            solid other (List.mem_append_right taken (List.mem_cons_of_mem piece member))
          rw [List.dropLast_concat]
          exact ⟨fun other member => solid other (List.mem_append_left _ member),
            (solid_cons_iff _ _).mpr ⟨nonempty, others⟩⟩
      · simp only [if_neg wide]
        refine ⟨List.flatten_append.symm, fits, fun solid => ⟨?_, ?_⟩⟩
        · intro other member
          exact solid other (List.mem_append_left _ (List.dropLast_subset _ member))
        · intro other member
          exact solid other (List.mem_append_right taken member)

theorem dropBlankEnd_cases (line : List (List Char)) :
    (∃ front piece, line = front ++ [piece] ∧ piece.all isBlank = true ∧
      dropBlankEnd line = front) ∨
    (dropBlankEnd line = line ∧ ∀ front piece, line = front ++ [piece] →
      ¬ piece.all isBlank = true) := by
  unfold dropBlankEnd
  cases last : line.getLast? with
  | none =>
      rw [List.getLast?_eq_none_iff] at last
      subst last
      exact Or.inr ⟨rfl, fun front piece same => absurd same.symm (List.concat_ne_nil piece front)⟩
  | some piece =>
      obtain ⟨front, rfl⟩ := List.getLast?_eq_some_iff.mp last
      by_cases blank : piece.all isBlank = true
      · simp only [if_pos blank, List.dropLast_concat]
        exact Or.inl ⟨front, piece, rfl, blank, rfl⟩
      · simp only [if_neg blank]
        refine Or.inr ⟨trivial, fun other last same => ?_⟩
        obtain ⟨_, rfl⟩ := List.append_inj_right' same rfl
        exact blank

theorem visible_dropBlankEnd (line : List (List Char)) :
    visible (dropBlankEnd line).flatten = visible line.flatten := by
  rcases dropBlankEnd_cases line with ⟨front, piece, rfl, blank, kept⟩ | ⟨kept, _⟩
  · rw [kept, List.flatten_append, List.flatten_singleton, visible_append, visible_of_blank blank,
      List.append_nil]
  · rw [kept]

theorem length_dropBlankEnd_le (line : List (List Char)) :
    (dropBlankEnd line).flatten.length ≤ line.flatten.length := by
  rcases dropBlankEnd_cases line with ⟨front, piece, rfl, _, kept⟩ | ⟨kept, _⟩
  · rw [kept, List.flatten_append, List.length_append]
    exact Nat.le_add_right _ _
  · exact Nat.le_of_eq (by rw [kept])

theorem solid_dropBlankEnd {line : List (List Char)} (solid : Solid line.dropLast) :
    Solid (dropBlankEnd line) := by
  rcases dropBlankEnd_cases line with ⟨front, piece, rfl, _, kept⟩ | ⟨kept, lastShown⟩
  · rw [List.dropLast_concat] at solid
    rw [kept]
    exact solid
  · rw [kept]
    rintro piece member rfl
    rcases List.eq_nil_or_concat line with rfl | ⟨front, last, rfl⟩
    · cases member
    · rw [List.concat_eq_append] at member lastShown solid
      rw [List.dropLast_concat] at solid
      rcases List.mem_append.mp member with inFront | isLast
      · exact solid [] inFront rfl
      · refine lastShown front last rfl ?_
        rw [← List.mem_singleton.mp isLast]
        rfl

/-- The pieces in front of a line lose their first one when that is blank, or stay as they are. -/
theorem dropBlankStart_cases (started : Bool) (text : List (List Char)) :
    dropBlankStart started text = text ∨ ∃ piece rest, text = piece :: rest ∧
      piece.all isBlank = true ∧ dropBlankStart started text = rest := by
  cases text with
  | nil => exact Or.inl rfl
  | cons piece rest =>
      by_cases dropped : (started && piece.all isBlank) = true
      · refine Or.inr ⟨piece, rest, rfl, (Bool.and_eq_true_iff.mp dropped).2, ?_⟩
        rw [dropBlankStart, if_pos dropped]
      · refine Or.inl ?_
        rw [dropBlankStart, if_neg dropped]

theorem visible_dropBlankStart (started : Bool) (text : List (List Char)) :
    visible (dropBlankStart started text).flatten = visible text.flatten := by
  cases text with
  | nil => rfl
  | cons piece rest =>
      rw [dropBlankStart]
      by_cases dropped : (started && piece.all isBlank) = true
      · have blank := (Bool.and_eq_true_iff.mp dropped).2
        rw [if_pos dropped, List.flatten_cons, visible_append, visible_of_blank blank,
          List.nil_append]
      · rw [if_neg dropped]

theorem solid_dropBlankStart {started : Bool} {text : List (List Char)} (solid : Solid text) :
    Solid (dropBlankStart started text) := by
  cases text with
  | nil => exact solid
  | cons piece rest =>
      rw [dropBlankStart]
      split
      · exact ((solid_cons_iff piece rest).mp solid).2
      · exact solid

/-! ### All lines -/

theorem fill_of_dropped {column : Column} {started : Bool} {text rest : List (List Char)}
    {piece : List Char} (start : dropBlankStart started text = piece :: rest)
    (dropped : dropBlankEnd (takeLine column (piece :: rest)).1 = []) :
    fill column started text = fill column started (takeLine column (piece :: rest)).2 := by
  rw [fill]
  split
  · rename_i nothing
    rw [start] at nothing
    cases nothing
  · rename_i same
    cases start.symm.trans same
    simp only [dropped]

theorem fill_of_kept {column : Column} {started : Bool} {text rest : List (List Char)}
    {piece : List Char} (start : dropBlankStart started text = piece :: rest)
    (kept : dropBlankEnd (takeLine column (piece :: rest)).1 ≠ []) :
    fill column started text = (dropBlankEnd (takeLine column (piece :: rest)).1).flatten ::
      fill column true (takeLine column (piece :: rest)).2 := by
  rw [fill]
  split
  · rename_i nothing
    rw [start] at nothing
    cases nothing
  · rename_i same
    cases start.symm.trans same
    dsimp only
    split
    · rename_i none
      exact absurd none kept
    · rfl

theorem visible_takeLine (column : Column) (text : List (List Char)) :
    visible (dropBlankEnd (takeLine column text).1).flatten ++
      visible (takeLine column text).2.flatten = visible text.flatten := by
  rw [visible_dropBlankEnd, ← visible_append, (takeLine_takes column text).whole]

theorem visible_fill (column : Column) (started : Bool) (text : List (List Char)) :
    visible (fill column started text).flatten = visible text.flatten := by
  fun_induction fill column started text with
  | case1 started text start =>
      rw [← visible_dropBlankStart started text, start]
  | case2 started text piece rest start line dropped ih =>
      have parts := visible_takeLine column (piece :: rest)
      change visible (dropBlankEnd line.1).flatten ++ visible line.2.flatten = _ at parts
      rw [dropped] at parts
      rw [ih, ← visible_dropBlankStart started text, start]
      exact parts
  | case3 started text piece rest start line _ ih =>
      rw [List.flatten_cons, visible_append, ih, ← visible_dropBlankStart started text, start]
      exact visible_takeLine column (piece :: rest)

theorem length_of_mem_fill {column : Column} {started : Bool} {text : List (List Char)}
    (solid : Solid text) :
    ∀ line ∈ fill column started text, 1 ≤ line.length ∧ line.length ≤ column.width := by
  fun_induction fill column started text with
  | case1 started text start => exact List.forall_mem_nil _
  | case2 started text piece rest start line dropped ih =>
      have ahead : Solid (piece :: rest) := start ▸ solid_dropBlankStart solid
      exact ih ((takeLine_takes column (piece :: rest)).solid ahead).2
  | case3 started text piece rest start line kept ih =>
      have takes := takeLine_takes column (piece :: rest)
      have ahead : Solid (piece :: rest) := start ▸ solid_dropBlankStart solid
      obtain ⟨solidLine, solidLeft⟩ := takes.solid ahead
      rw [List.forall_mem_cons]
      refine ⟨⟨?_, Nat.le_trans (length_dropBlankEnd_le line.1) takes.fits⟩, ih solidLeft⟩
      obtain ⟨first, more, some⟩ := List.exists_cons_of_ne_nil kept
      have solidKept := solid_dropBlankEnd solidLine
      change Solid (dropBlankEnd line.1) at solidKept
      rw [some] at solidKept ⊢
      have nonempty := List.length_pos_iff.mpr ((solid_cons_iff first more).mp solidKept).1
      rw [List.flatten_cons, List.length_append]
      omega

/-! ### The wrapped text -/

theorem visible_wrap (column : Column) (text : List Char) :
    visible (wrap column text).flatten = visible text := by
  rw [wrap, visible_fill, flatten_pieces, visible_spacedText]

theorem length_of_mem_wrap {column : Column} {text line : List Char}
    (member : line ∈ wrap column text) : 1 ≤ line.length ∧ line.length ≤ column.width :=
  length_of_mem_fill (solid_piecesFrom [] (spacedText text) _) line member

end SavingsSite.Text
