import SavingsSite.Proofs.Text.Filling

set_option autoImplicit false

/-! A text with more behind it. What follows a space changes neither the spaces nor the pieces of the
text in front of it, so the lines of that text stay and only its last one can take more. -/

namespace SavingsSite.Text

def EndsShown (text : List Char) : Prop := ∃ c, text.getLast? = some c ∧ isBlank c = false

theorem EndsShown.visible_ne_nil {text : List Char} (shown : EndsShown text) :
    visible text ≠ [] := by
  obtain ⟨c, last, seen⟩ := shown
  refine List.ne_nil_of_mem (List.mem_filter.mpr ⟨List.mem_of_getLast? last, ?_⟩)
  rw [seen]
  rfl

theorem EndsShown.of_append {front back : List Char} (shown : EndsShown (front ++ back))
    (nonempty : back ≠ []) : EndsShown back := by
  obtain ⟨c, last, seen⟩ := shown
  obtain ⟨init, d, rfl⟩ := List.eq_nil_or_concat back |>.resolve_left nonempty
  rw [List.concat_eq_append] at last ⊢
  rw [← List.append_assoc, List.getLast?_concat] at last
  exact ⟨c, by rw [List.getLast?_concat, last], seen⟩

/-! ### Spaces and pieces -/

theorem expandTabs_append (column : Nat) (text more : List Char) :
    ∃ next, expandTabs column (text ++ more) =
      expandTabs column text ++ expandTabs next more := by
  induction text generalizing column with
  | nil => exact ⟨column, rfl⟩
  | cons c rest ih =>
      rw [List.cons_append, expandTabs, expandTabs]
      by_cases tab : c = '\t'
      · obtain ⟨next, later⟩ := ih (column + (8 - column % 8))
        rw [if_pos tab, if_pos tab, later, ← List.append_assoc]
        exact ⟨next, rfl⟩
      · rw [if_neg tab, if_neg tab]
        split
        · obtain ⟨next, later⟩ := ih 0
          exact ⟨next, congrArg (List.cons c) later⟩
        · obtain ⟨next, later⟩ := ih (column + 1)
          exact ⟨next, congrArg (List.cons c) later⟩

theorem spacedText_append_space (text more : List Char) :
    ∃ rest, spacedText (text ++ ' ' :: more) = spacedText text ++ ' ' :: rest := by
  obtain ⟨next, parts⟩ := expandTabs_append 0 text (' ' :: more)
  refine ⟨(expandTabs (next + 1) more).map spaced, ?_⟩
  rw [spacedText, parts, List.map_append]
  rfl

theorem not_isGap_of_seen {c : Char} (seen : isBlank c = false) : isGap c = false := by
  cases gap : isGap c with
  | false => rfl
  | true =>
      rw [isBlank_of_isGap gap] at seen
      cases seen

theorem EndsShown.spacedText {text : List Char} (shown : EndsShown text) :
    EndsShown (spacedText text) := by
  obtain ⟨c, last, seen⟩ := shown
  have plain := not_isGap_of_seen seen
  obtain ⟨front, rfl⟩ := List.getLast?_eq_some_iff.mp last
  obtain ⟨next, parts⟩ := expandTabs_append 0 front [c]
  have alone : expandTabs next [c] = [c] := by
    have noTab : c ≠ '\t' := by
      rintro rfl
      cases plain
    rw [expandTabs, if_neg noTab]
    split <;> rfl
  refine ⟨c, ?_, seen⟩
  rw [Text.spacedText, parts, alone, List.map_append, List.map_singleton, spaced, plain,
    if_neg Bool.false_ne_true, List.getLast?_concat]

theorem startsLettered_append_gap (ahead more : List Glyph) :
    startsLettered (ahead ++ .gap :: more) = startsLettered ahead := by
  rcases ahead with _ | ⟨g, _ | ⟨h, _ | ⟨k, rest⟩⟩⟩
  · rfl
  · cases g <;> rfl
  · cases g <;> cases h <;> rfl
  · cases g <;> cases h <;> cases k <;> rfl

theorem startsDashRun_append_gap (ahead more : List Glyph) :
    startsDashRun (ahead ++ .gap :: more) = startsDashRun ahead := by
  have afterDashes (rest : List Glyph) :
      startsDashRun (.dash :: .dash :: (rest ++ .gap :: more)) =
        startsDashRun (.dash :: .dash :: rest) := by
    simp only [startsDashRun]
    rw [List.dropWhile_append]
    cases rest.dropWhile (· == .dash) with
    | nil => rfl
    | cons g others => rfl
  rcases ahead with _ | ⟨g, _ | ⟨h, rest⟩⟩
  · rfl
  · cases g <;> rfl
  · cases g <;> cases h
    case dash.dash => exact afterDashes rest
    all_goals rfl

/-- Whether a text breaks in front of some of its characters does not depend on what follows a
space behind them. -/
theorem breaksBetween_append_gap (behind : List Glyph) {ahead : List Glyph} (nonempty : ahead ≠ [])
    (more : List Glyph) :
    breaksBetween behind (ahead ++ .gap :: more) = breaksBetween behind ahead := by
  cases behind with
  | nil => rfl
  | cons b others =>
      cases ahead with
      | nil => exact absurd rfl nonempty
      | cons a rest =>
          have lettered := startsLettered_append_gap (a :: rest) more
          have dashes := startsDashRun_append_gap (a :: rest) more
          rw [List.cons_append] at lettered dashes ⊢
          simp only [breaksBetween, lettered, dashes]

theorem piecesFrom_ne_nil (behind : List Glyph) {text : List Char} {ahead : List Glyph}
    (same : text.length = ahead.length) (nonempty : text ≠ []) : piecesFrom behind text ahead ≠ [] := by
  intro none
  have whole := flatten_piecesFrom behind text ahead same
  rw [none] at whole
  exact nonempty whole.symm

/-- A text that does not end with a gap is cut in front of one, and cut as it would be alone. -/
theorem piecesFrom_append_gap (behind : List Glyph) {text : List Char} {ahead : List Glyph}
    (same : text.length = ahead.length) (nonempty : text ≠ [])
    (noGap : ahead.getLast? ≠ some .gap) {more : List Char} {moreAhead : List Glyph}
    (moreSame : more.length = moreAhead.length) :
    ∃ others, piecesFrom behind (text ++ ' ' :: more) (ahead ++ .gap :: moreAhead) =
      piecesFrom behind text ahead ++ others := by
  induction text generalizing behind ahead with
  | nil => exact absurd rfl nonempty
  | cons c rest ih =>
      cases ahead with
      | nil => cases same
      | cons g ahead =>
          have restSame : rest.length = ahead.length := Nat.succ.inj same
          rw [List.cons_append, List.cons_append, piecesFrom, piecesFrom]
          cases rest with
          | nil =>
              obtain rfl : ahead = [] := List.length_eq_zero_iff.mp restSame.symm
              have cut : breaksBetween (g :: behind) (.gap :: moreAhead) = true := by
                have other : (g == Glyph.gap) = false := beq_false_of_ne fun isGap =>
                  noGap (congrArg some isGap)
                simp only [breaksBetween, other, beq_self_eq_true, Bool.false_bne, Bool.true_or]
              have laterSame : (' ' :: more).length = (Glyph.gap :: moreAhead).length :=
                congrArg (· + 1) moreSame
              have moreNonempty :=
                piecesFrom_ne_nil (g :: behind) laterSame (List.cons_ne_nil ' ' more)
              simp only [List.nil_append]
              generalize piecesFrom (g :: behind) (' ' :: more) (.gap :: moreAhead) = after
                at moreNonempty ⊢
              cases after with
              | nil => exact absurd rfl moreNonempty
              | cons piece others =>
                  simp only [if_pos cut]
                  exact ⟨piece :: others, rfl⟩
          | cons d text =>
              have aheadNonempty : ahead ≠ [] := List.ne_nil_of_length_pos (by
                rw [← restSame]
                exact Nat.succ_pos _)
              have lastNoGap : ahead.getLast? ≠ some .gap := by
                rw [List.getLast?_cons_of_ne_nil aheadNonempty] at noGap
                exact noGap
              obtain ⟨others, later⟩ := ih (g :: behind) restSame (List.cons_ne_nil d text) lastNoGap
              have own := piecesFrom_ne_nil (g :: behind) restSame (List.cons_ne_nil d text)
              rw [later, breaksBetween_append_gap (g :: behind) aheadNonempty moreAhead]
              cases cut : piecesFrom (g :: behind) (d :: text) ahead with
              | nil => exact absurd cut own
              | cons piece pieces =>
                  simp only [List.cons_append]
                  split
                  · exact ⟨others, rfl⟩
                  · exact ⟨others, rfl⟩

theorem ofChar_eq_gap_iff (c : Char) : Glyph.ofChar c = .gap ↔ c = ' ' := by
  unfold Glyph.ofChar
  split
  · rename_i space
    exact iff_of_true rfl space
  · rename_i other
    refine iff_of_false ?_ other
    split
    · exact Glyph.noConfusion
    · split
      · split
        · exact Glyph.noConfusion
        · exact Glyph.noConfusion
      · split
        · exact Glyph.noConfusion
        · exact Glyph.noConfusion

theorem pieces_append_space {text : List Char} (shown : EndsShown text) (more : List Char) :
    ∃ others, pieces (text ++ ' ' :: more) = pieces text ++ others := by
  obtain ⟨c, last, seen⟩ := shown.spacedText
  obtain ⟨rest, spacedAt⟩ := spacedText_append_space text more
  have lastGlyph : ((spacedText text).map Glyph.ofChar).getLast? ≠ some .gap := by
    rw [List.getLast?_map, last]
    intro gap
    have space := (ofChar_eq_gap_iff c).mp (Option.some.inj gap)
    rw [space] at seen
    cases seen
  have nonempty : spacedText text ≠ [] := by
    intro nothing
    rw [nothing] at last
    cases last
  unfold pieces
  dsimp only
  rw [spacedAt, List.map_append, List.map_cons]
  exact piecesFrom_append_gap [] (List.length_map Glyph.ofChar).symm nonempty lastGlyph
    (List.length_map Glyph.ofChar).symm

/-! ### Lines -/

theorem takeFrom_append_of_left {width room : Nat} {text : List (List Char)}
    (left : (takeFrom width room text).2 ≠ []) (more : List (List Char)) :
    takeFrom width room (text ++ more) =
      ((takeFrom width room text).1, (takeFrom width room text).2 ++ more) := by
  induction text generalizing room with
  | nil => exact absurd rfl left
  | cons piece rest ih =>
      rw [List.cons_append]
      by_cases fits : piece.length ≤ room
      · rw [takeFrom_of_fits width fits] at left ⊢
        rw [takeFrom_of_fits width fits, ih left]
      · have full := Nat.lt_of_not_le fits
        by_cases long : width < piece.length
        · rw [takeFrom_of_broken full long, takeFrom_of_broken full long]
          rfl
        · have short := Nat.le_of_not_lt long
          rw [takeFrom_of_full full short, takeFrom_of_full full short]
          rfl

theorem takeLine_append_of_left {column : Column} {text : List (List Char)}
    (left : (takeLine column text).2 ≠ []) (more : List (List Char)) :
    takeLine column (text ++ more) =
      ((takeLine column text).1, (takeLine column text).2 ++ more) := by
  rw [takeLine_eq] at left ⊢
  rw [takeLine_eq]
  exact takeFrom_append_of_left left more

theorem dropBlankStart_append {started : Bool} {text : List (List Char)} {piece : List Char}
    {rest : List (List Char)} (start : dropBlankStart started text = piece :: rest)
    (more : List (List Char)) :
    dropBlankStart started (text ++ more) = piece :: (rest ++ more) := by
  cases text with
  | nil => cases start
  | cons first others =>
      rw [List.cons_append]
      rw [dropBlankStart] at start ⊢
      split
      · rename_i dropped
        rw [if_pos dropped] at start
        rw [start]
        rfl
      · rename_i kept
        rw [if_neg kept] at start
        cases start
        rfl

theorem Solid.flatten_ne_nil {text : List (List Char)} (solid : Solid text)
    (nonempty : text ≠ []) : text.flatten ≠ [] := by
  cases text with
  | nil => exact absurd rfl nonempty
  | cons piece rest =>
      intro nothing
      exact ((solid_cons_iff piece rest).mp solid).1 (List.append_eq_nil_iff.mp nothing).1

theorem EndsShown.left {column : Column} {started : Bool} {text line left : List (List Char)}
    (shown : EndsShown text.flatten) (solid : Solid text)
    (takes : Takes column (dropBlankStart started text) line left) (nonempty : left ≠ []) :
    Solid left ∧ EndsShown left.flatten := by
  have solidLeft := (takes.solid (solid_dropBlankStart solid)).2
  have some := solidLeft.flatten_ne_nil nonempty
  refine ⟨solidLeft, ?_⟩
  rcases dropBlankStart_cases started text with same | ⟨piece, rest, rfl, _, same⟩
  · rw [same] at takes
    rw [← takes.whole] at shown
    exact shown.of_append some
  · rw [same] at takes
    rw [List.flatten_cons, ← takes.whole, ← List.append_assoc] at shown
    exact shown.of_append some

theorem length_fill_le_append (column : Column) (started : Bool) (text : List (List Char)) :
    Solid text → EndsShown text.flatten → ∀ more : List (List Char),
      (fill column started text).length ≤ (fill column started (text ++ more)).length := by
  fun_induction fill column started text with
  | case1 started text start =>
      intro _ _ more
      exact Nat.zero_le _
  | case2 started text piece rest start line none ih =>
      intro solid shown more
      by_cases left : line.2 = []
      · rw [left, fill]
        exact Nat.zero_le _
      · have takes : Takes column (dropBlankStart started text) line.1 line.2 :=
          start ▸ takeLine_takes column (piece :: rest)
        have same := takeLine_append_of_left left more
        obtain ⟨solidLeft, shownLeft⟩ := shown.left solid takes left
        rw [fill_of_dropped (dropBlankStart_append start more), ← List.cons_append, same]
        · exact ih solidLeft shownLeft more
        · rw [← List.cons_append, same]
          exact none
  | case3 started text piece rest start line kept ih =>
      intro solid shown more
      by_cases left : line.2 = []
      · have seen : visible (fill column started (text ++ more)).flatten ≠ [] := by
          rw [visible_fill, List.flatten_append, visible_append]
          exact List.append_ne_nil_of_left_ne_nil shown.visible_ne_nil _
        rw [left, fill]
        refine List.length_pos_iff.mpr fun nothing => seen ?_
        rw [nothing]
        rfl
      · have takes : Takes column (dropBlankStart started text) line.1 line.2 :=
          start ▸ takeLine_takes column (piece :: rest)
        have same := takeLine_append_of_left left more
        obtain ⟨solidLeft, shownLeft⟩ := shown.left solid takes left
        rw [fill_of_kept (dropBlankStart_append start more), ← List.cons_append, same]
        · exact Nat.succ_le_succ (ih solidLeft shownLeft more)
        · rw [← List.cons_append, same]
          exact kept

theorem length_wrap_le_append {text : List Char} (shown : EndsShown text) (column : Column)
    (more : List Char) :
    (wrap column text).length ≤ (wrap column (text ++ ' ' :: more)).length := by
  obtain ⟨others, whole⟩ := pieces_append_space shown more
  have ends : EndsShown (pieces text).flatten := by
    rw [flatten_pieces]
    exact shown.spacedText
  rw [wrap, wrap, whole]
  exact length_fill_le_append column false (pieces text) (solid_piecesFrom [] _ _) ends others

end SavingsSite.Text
