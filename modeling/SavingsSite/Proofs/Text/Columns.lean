import SavingsSite.Proofs.Text.Packing

set_option autoImplicit false

/-! Lines of one text in two columns. A line of the wide column, begun at a place that the narrow
column has not passed, ends at such a place again, but for one case: it stops in front of a word that
fits it whole and that the narrow column has broken. So the wide column needs no more lines but for
such words. -/

namespace SavingsSite.Text

/-! ### Being ahead in a text -/

inductive Ahead : List (List Char) → List (List Char) → Prop
  | nil : Ahead [] []
  | cut (piece : List Char) (rest : List (List Char)) (count : Nat) :
      Ahead (piece.drop count :: rest) (piece :: rest)
  | past {later rest : List (List Char)} (piece : List Char) (ahead : Ahead later rest) :
      Ahead later (piece :: rest)

theorem Ahead.refl (text : List (List Char)) : Ahead text text := by
  cases text with
  | nil => exact .nil
  | cons piece rest => exact .cut piece rest 0

theorem Ahead.of_le {count more : Nat} (atMost : count ≤ more) (piece : List Char)
    (rest : List (List Char)) : Ahead (piece.drop more :: rest) (piece.drop count :: rest) := by
  obtain ⟨extra, rfl⟩ := Nat.exists_eq_add_of_le atMost
  rw [← List.drop_drop]
  exact .cut (piece.drop count) rest extra

theorem Ahead.trans {latest later text : List (List Char)} (first : Ahead latest later)
    (second : Ahead later text) : Ahead latest text := by
  induction second with
  | nil => exact first
  | cut piece rest count =>
      cases first with
      | cut _ _ more =>
          rw [List.drop_drop]
          exact .cut piece rest (count + more)
      | past _ ahead => exact .past piece ahead
  | past piece _ ih => exact .past piece (ih first)

theorem Ahead.tail_suffix {later text : List (List Char)} (ahead : Ahead later text) :
    later.tail <:+ text.tail := by
  induction ahead with
  | nil => exact List.suffix_refl []
  | cut piece rest count => exact List.suffix_refl rest
  | past piece _ ih => exact ih.trans (List.tail_suffix _)

theorem ahead_dropBlankStart (started : Bool) (text : List (List Char)) :
    Ahead (dropBlankStart started text) text := by
  rcases dropBlankStart_cases started text with same | ⟨piece, rest, rfl, _, same⟩
  · rw [same]
    exact .refl text
  · rw [same]
    exact .past piece (.refl rest)

theorem dropBlankStart_of_blank {piece : List Char} (blank : piece.all isBlank = true)
    (rest : List (List Char)) : dropBlankStart true (piece :: rest) = rest := by
  rw [dropBlankStart, if_pos (by rw [blank]; rfl)]

theorem dropBlankStart_of_shown {piece : List Char} (shown : ¬ piece.all isBlank = true)
    (rest : List (List Char)) : dropBlankStart true (piece :: rest) = piece :: rest := by
  rw [dropBlankStart, if_neg (by rwa [Bool.true_and])]

theorem all_drop {piece : List Char} (blank : piece.all isBlank = true) (count : Nat) :
    (piece.drop count).all isBlank = true := by
  rw [List.all_eq_true] at blank ⊢
  exact fun c member => blank c (List.mem_of_mem_drop member)

theorem Ahead.dropBlankStart {later text : List (List Char)} (ahead : Ahead later text) :
    Ahead (Text.dropBlankStart true later) (Text.dropBlankStart true text) := by
  cases ahead with
  | nil => exact .nil
  | cut piece rest count =>
      by_cases blank : piece.all isBlank = true
      · rw [dropBlankStart_of_blank blank, dropBlankStart_of_blank (all_drop blank count)]
        exact .refl rest
      · rw [dropBlankStart_of_shown blank]
        exact (ahead_dropBlankStart true _).trans (.cut piece rest count)
  | past piece ahead =>
      have ahead := (ahead_dropBlankStart true later).trans ahead
      rcases dropBlankStart_cases true (piece :: _) with same | ⟨_, _, whole, _, same⟩
      · rw [same]
        exact .past piece ahead
      · cases whole
        rw [same]
        exact ahead

theorem ahead_takeFrom (width room : Nat) (text : List (List Char)) :
    Ahead (takeFrom width room text).2 text := by
  induction text generalizing room with
  | nil => exact .nil
  | cons piece rest ih =>
      by_cases fits : piece.length ≤ room
      · rw [takeFrom_of_fits width fits]
        exact .past piece (ih _)
      · by_cases long : width < piece.length
        · rw [takeFrom_of_broken (Nat.lt_of_not_le fits) long]
          exact .cut piece rest _
        · rw [takeFrom_of_full (Nat.lt_of_not_le fits) (Nat.le_of_not_lt long)]
          exact .refl _

/-! ### One line in each column -/

theorem breakPoint_le_drop {room width start : Nat} (within : room ≤ start + width)
    (piece : List Char) :
    breakPoint room piece ≤ start + breakPoint width (piece.drop start) := by
  rcases breakPoint_cases room piece with ⟨place, before, breaks, stop, _⟩ | ⟨stop, none⟩
  · by_cases passed : place < start
    · omega
    · obtain ⟨index, rfl⟩ := Nat.exists_eq_add_of_le (Nat.le_of_not_lt passed)
      have hyphen : (piece.drop start)[index]? = some '-' := by
        rw [List.getElem?_drop]
        exact breaks.1
      rcases breakPoint_cases width (piece.drop start) with
        ⟨other, _, otherBreaks, otherStop, last⟩ | ⟨otherStop, _⟩
      · by_cases early : other < index
        · exact absurd (otherBreaks.later early hyphen) (last index early (by omega))
        · omega
      · omega
  · rcases breakPoint_cases width (piece.drop start) with
      ⟨other, _, breaks, otherStop, _⟩ | ⟨otherStop, _⟩
    · have outside : ¬ start + other < room := fun before => none _ before breaks.of_drop
      omega
    · omega

/-- What a line of the wide column leaves is ahead of what one of the narrow column leaves, or it
starts with a word that only the wide column holds and that the narrow one has broken. -/
inductive Follows (narrow wide : Nat) (before : List (List Char)) :
    List (List Char) → List (List Char) → Prop
  | ahead {later text : List (List Char)} (ahead : Ahead later text) :
      Follows narrow wide before later text
  | held {word : List Char} {rest : List (List Char)} (count : Nat) (wider : narrow < word.length)
      (fits : word.length ≤ wide) (among : word :: rest <:+ before) :
      Follows narrow wide before (word :: rest) (word.drop count :: rest)

theorem Follows.mono {narrow wide : Nat} {before more later text : List (List Char)}
    (follows : Follows narrow wide before later text) (inside : before <:+ more) :
    Follows narrow wide more later text := by
  cases follows with
  | ahead ahead => exact .ahead ahead
  | held count wider fits among => exact .held count wider fits (among.trans inside)

theorem exists_takeFrom_stop (width : Nat) {room : Nat} {piece : List Char}
    (full : room < piece.length) (rest : List (List Char)) :
    ∃ count, (takeFrom width room (piece :: rest)).2 = piece.drop count :: rest := by
  by_cases long : width < piece.length
  · rw [takeFrom_of_broken full long]
    exact ⟨_, rfl⟩
  · rw [takeFrom_of_full full (Nat.le_of_not_lt long)]
    exact ⟨0, rfl⟩

theorem takeFrom_follows {narrow wide room more : Nat} (narrower : narrow ≤ wide)
    (less : room ≤ more) (text : List (List Char)) :
    Follows narrow wide text (takeFrom wide more text).2 (takeFrom narrow room text).2 := by
  induction text generalizing room more with
  | nil => exact .ahead .nil
  | cons piece rest ih =>
      by_cases fits : piece.length ≤ room
      · rw [takeFrom_of_fits narrow fits, takeFrom_of_fits wide (Nat.le_trans fits less)]
        exact (ih (Nat.sub_le_sub_right less _)).mono (List.suffix_cons piece rest)
      · have full := Nat.lt_of_not_le fits
        by_cases fitsMore : piece.length ≤ more
        · obtain ⟨count, stop⟩ := exists_takeFrom_stop narrow full rest
          rw [stop, takeFrom_of_fits wide fitsMore]
          exact .ahead (.past _ (ahead_takeFrom _ _ rest))
        · have fullMore := Nat.lt_of_not_le fitsMore
          by_cases long : wide < piece.length
          · rw [takeFrom_of_broken full (Nat.lt_of_le_of_lt narrower long),
              takeFrom_of_broken fullMore long]
            have earlier : breakPoint room piece ≤ 0 + breakPoint more (piece.drop 0) :=
              breakPoint_le_drop (by omega) piece
            rw [Nat.zero_add, List.drop_zero] at earlier
            exact .ahead (.of_le earlier piece rest)
          · have short := Nat.le_of_not_lt long
            rw [takeFrom_of_full fullMore short]
            by_cases wider : narrow < piece.length
            · rw [takeFrom_of_broken full wider]
              exact .held _ wider short (List.suffix_refl _)
            · rw [takeFrom_of_full full (Nat.le_of_not_lt wider)]
              exact .ahead (.refl _)

theorem takeFrom_follows_of_ahead {narrow wide room : Nat} (narrower : narrow ≤ wide)
    (less : room ≤ wide) {later text : List (List Char)} (ahead : Ahead later text) :
    Follows narrow wide later.tail (takeFrom wide wide later).2 (takeFrom narrow room text).2 := by
  induction ahead generalizing room with
  | nil => exact .ahead .nil
  | cut piece rest count =>
      have shorter : (piece.drop count).length = piece.length - count := List.length_drop
      by_cases fits : piece.length ≤ room
      · rw [takeFrom_of_fits narrow fits, takeFrom_of_fits wide (by omega)]
        exact takeFrom_follows narrower (by omega) rest
      · have full := Nat.lt_of_not_le fits
        by_cases fitsWide : (piece.drop count).length ≤ wide
        · obtain ⟨stop, stopped⟩ := exists_takeFrom_stop narrow full rest
          rw [stopped, takeFrom_of_fits wide fitsWide]
          exact .ahead (.past _ (ahead_takeFrom _ _ rest))
        · have long := Nat.lt_of_not_le fitsWide
          rw [takeFrom_of_broken full (by omega), takeFrom_of_broken long long, List.drop_drop]
          exact .ahead (.of_le (breakPoint_le_drop (by omega) piece) piece rest)
  | past piece ahead ih =>
      by_cases fits : piece.length ≤ room
      · rw [takeFrom_of_fits narrow fits]
        exact ih (by omega)
      · obtain ⟨count, stopped⟩ := exists_takeFrom_stop narrow (Nat.lt_of_not_le fits) _
        rw [stopped]
        exact .ahead (.past _ ((ahead_takeFrom _ _ _).trans ahead))

/-! ### All lines in both columns -/

/-- The lines that are taken from a text, blank ones among them, when every line but the first loses
the blank piece in front of it. -/
def rounds (column : Column) : List (List Char) → Nat
  | [] => 0
  | piece :: rest => rounds column (dropBlankStart true (takeLine column (piece :: rest)).2) + 1
termination_by text => weight text
decreasing_by
  exact Nat.lt_of_le_of_lt (weight_dropBlankStart_le true _) (weight_takeLine_lt column piece rest)

/-- The words that fit the wide column and not the narrow one. -/
def longWords (narrow wide : Nat) (text : List (List Char)) : Nat :=
  text.countP fun piece => narrow < piece.length && piece.length ≤ wide && !piece.all isBlank

theorem longWords_le_of_suffix {narrow wide : Nat} {text more : List (List Char)}
    (suffix : text <:+ more) : longWords narrow wide text ≤ longWords narrow wide more :=
  suffix.sublist.countP_le

theorem longWords_cons_of_held {narrow wide : Nat} {word : List Char}
    (wider : narrow < word.length) (fits : word.length ≤ wide) (shown : ¬ word.all isBlank = true)
    (rest : List (List Char)) :
    longWords narrow wide (word :: rest) = longWords narrow wide rest + 1 := by
  refine List.countP_cons_of_pos ?_
  rw [Bool.not_eq_true] at shown
  rw [decide_eq_true wider, decide_eq_true fits, shown]
  rfl

theorem longWords_eq_zero (width : Nat) (text : List (List Char)) :
    longWords width width text = 0 := by
  rw [longWords, List.countP_eq_zero]
  intro piece _ counted
  simp only [Bool.and_eq_true, decide_eq_true_eq] at counted
  omega

theorem rounds_le_of_ahead {narrow wide : Column} (narrower : narrow.width ≤ wide.width)
    (text : List (List Char)) : ∀ later, Ahead later text →
      rounds wide later ≤ rounds narrow text + longWords narrow.width wide.width later.tail := by
  fun_induction rounds narrow text with
  | case1 =>
      intro later ahead
      cases ahead
      rw [rounds]
      exact Nat.zero_le _
  | case2 piece rest ih =>
      intro later ahead
      cases later with
      | nil =>
          rw [rounds]
          exact Nat.zero_le _
      | cons first others =>
          have follows := takeFrom_follows_of_ahead narrower narrower ahead
          rw [← takeLine_eq, ← takeLine_eq] at follows
          have behind := ahead_takeFrom wide.width wide.width (first :: others)
          rw [← takeLine_eq] at behind
          rw [rounds]
          generalize (takeLine narrow (piece :: rest)).2 = left at ih follows ⊢
          generalize (takeLine wide (first :: others)).2 = leftWide at behind follows ⊢
          cases follows with
          | ahead ahead =>
              have later := ih _ ahead.dropBlankStart
              have fewer : longWords narrow.width wide.width (dropBlankStart true leftWide).tail ≤
                  longWords narrow.width wide.width others :=
                longWords_le_of_suffix
                  ((ahead_dropBlankStart true leftWide).tail_suffix.trans behind.tail_suffix)
              change _ ≤ _ + longWords narrow.width wide.width others
              omega
          | @held word left count wider fits among =>
              by_cases blank : word.all isBlank = true
              · rw [dropBlankStart_of_blank (all_drop blank count)] at ih ⊢
                rw [dropBlankStart_of_blank blank]
                have later := ih left (.refl left)
                have fewer : longWords narrow.width wide.width left.tail ≤
                    longWords narrow.width wide.width others :=
                  longWords_le_of_suffix
                    (((List.tail_suffix left).trans (List.suffix_cons word left)).trans among)
                change _ ≤ _ + longWords narrow.width wide.width others
                omega
              · have taken : (takeLine wide (word :: left)).2 =
                    (takeFrom wide.width (wide.width - word.length) left).2 := by
                  rw [takeLine_eq, takeFrom_of_fits wide.width fits]
                rw [dropBlankStart_of_shown blank, rounds, taken]
                have behindWord : Ahead left (dropBlankStart true (word.drop count :: left)) := by
                  rcases dropBlankStart_cases true (word.drop count :: left) with
                    same | ⟨_, _, whole, _, same⟩
                  · rw [same]
                    exact .past _ (.refl left)
                  · cases whole
                    rw [same]
                    exact .refl left
                have next := (ahead_dropBlankStart true _).trans
                  (ahead_takeFrom wide.width (wide.width - word.length) left)
                have later := ih _ (next.trans behindWord)
                have fewer : longWords narrow.width wide.width
                    (dropBlankStart true
                      (takeFrom wide.width (wide.width - word.length) left).2).tail + 1 ≤
                    longWords narrow.width wide.width others := by
                  calc _ ≤ longWords narrow.width wide.width left + 1 :=
                        Nat.succ_le_succ (longWords_le_of_suffix
                          (next.tail_suffix.trans (List.tail_suffix left)))
                    _ = longWords narrow.width wide.width (word :: left) :=
                        (longWords_cons_of_held wider fits blank left).symm
                    _ ≤ _ := longWords_le_of_suffix among
                change _ ≤ _ + longWords narrow.width wide.width others
                omega

theorem Ahead.rounds_le {later text : List (List Char)} (ahead : Ahead later text)
    (column : Column) : rounds column later ≤ rounds column text := by
  have lines := rounds_le_of_ahead (Nat.le_refl column.width) text later ahead
  rw [longWords_eq_zero] at lines
  exact lines

end SavingsSite.Text
