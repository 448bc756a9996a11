import SavingsSite.Text.Blank
import SavingsSite.Text.WordChar

set_option autoImplicit false

/-! Filling lines of a fixed number of columns. Tabs become spaces, every line end and white
space of the keyboard becomes one space, the text is cut into pieces at its break points, and
lines are filled greedily with pieces. A piece wider than a line is broken. -/

namespace SavingsSite.Text

/-- Spaces in place of each tab up to the next multiple of eight columns after `column`. -/
def expandTabs (column : Nat) : List Char → List Char
  | [] => []
  | c :: rest =>
      if c = '\t' then
        List.replicate (8 - column % 8) ' ' ++ expandTabs (column + (8 - column % 8)) rest
      else if c = '\n' || c = '\r' then c :: expandTabs 0 rest
      else c :: expandTabs (column + 1) rest

/-- The white space that a keyboard types; each of these is a place to break. -/
def isGap (c : Char) : Bool :=
  c = ' ' || c = '\t' || c = '\n' || c = '\r' || c = '\x0b' || c = '\x0c'

def spaced (c : Char) : Char := if isGap c then ' ' else c

inductive Glyph where
  | gap
  | dash
  | letter
  | digit
  | mark
  | other
  deriving DecidableEq, Repr

namespace Glyph

def ofChar (c : Char) : Glyph :=
  if c = ' ' then gap
  else if c = '-' then dash
  else if isWordChar c then (if isDecimalDigit c then digit else letter)
  else if c = '!' || c = '"' || c = '\'' || c = '&' || c = '.' || c = ',' || c = '?' then mark
  else other

def isWord (g : Glyph) : Bool := g == letter || g == digit

def isWordOrMark (g : Glyph) : Bool := g.isWord || g == mark

end Glyph

/-- A hyphen ends `behind` (read backwards) after two letters or after letter, hyphen, letter. -/
def endsHyphenated : List Glyph → Bool
  | .dash :: .letter :: .letter :: _ => true
  | .dash :: .letter :: .dash :: .letter :: _ => true
  | _ => false

def startsLettered : List Glyph → Bool
  | .letter :: .letter :: _ => true
  | .letter :: .dash :: .letter :: _ => true
  | _ => false

def startsDashRun : List Glyph → Bool
  | .dash :: .dash :: rest =>
      match rest.dropWhile (· == .dash) with
      | g :: _ => g.isWord
      | [] => false
  | _ => false

/-- Two or more dashes, read backwards, after a word character or its punctuation. -/
def endsDashRun : List Glyph → Bool
  | .dash :: .dash :: rest =>
      match rest.dropWhile (· == .dash) with
      | g :: _ => g.isWordOrMark
      | [] => false
  | _ => false

/-- Whether the text breaks between `behind`, read backwards, and `ahead`: where a gap begins or
ends, after a hyphen inside a word, and on both sides of a run of dashes between words. -/
def breaksBetween (behind ahead : List Glyph) : Bool :=
  match behind, ahead with
  | b :: _, a :: _ =>
      ((b == .gap) != (a == .gap)) ||
      (endsHyphenated behind && startsLettered ahead) ||
      (b.isWordOrMark && startsDashRun ahead) ||
      (endsDashRun behind && a.isWord)
  | _, _ => false

def piecesFrom (behind : List Glyph) : List Char → List Glyph → List (List Char)
  | c :: text, g :: ahead =>
      let rest := piecesFrom (g :: behind) text ahead
      match rest with
      | [] => [[c]]
      | piece :: more =>
          if breaksBetween (g :: behind) ahead then [c] :: rest else (c :: piece) :: more
  | _, _ => []

/-- The text with its tabs expanded and each gap character turned into a space. -/
def spacedText (text : List Char) : List Char := (expandTabs 0 text).map spaced

def pieces (text : List Char) : List (List Char) :=
  let plain := spacedText text
  piecesFrom [] plain (plain.map Glyph.ofChar)

/-- A number of columns; a line has at least one. -/
structure Column where
  width : Nat
  positive : 0 < width := by decide

/-- The pieces that fit in `room` columns from the front, and the remaining pieces. -/
def splitFit (room : Nat) : List (List Char) → List (List Char) × List (List Char)
  | [] => ([], [])
  | piece :: rest =>
      if piece.length ≤ room then
        let (taken, left) := splitFit (room - piece.length) rest
        (piece :: taken, left)
      else ([], piece :: rest)

def afterLastHyphen (text : List Char) : Option Nat :=
  let tail := text.reverse.dropWhile (· ≠ '-')
  if tail.isEmpty then none else some tail.length

/-- Where to break a piece that is wider than a line and has `room` columns left: after the last
hyphen in reach that has something other than hyphens before it, else where the room ends. -/
def breakPoint (room : Nat) (piece : List Char) : Nat :=
  match afterLastHyphen (piece.take room) with
  | some stop => if (piece.take (stop - 1)).any (· ≠ '-') then stop else room
  | none => room

def takeLine (column : Column) (text : List (List Char)) :
    List (List Char) × List (List Char) :=
  let (taken, left) := splitFit column.width text
  match left with
  | [] => (taken, [])
  | piece :: rest =>
      if column.width < piece.length then
        let stop := breakPoint (column.width - taken.flatten.length) piece
        (taken ++ [piece.take stop], piece.drop stop :: rest)
      else (taken, left)

def dropBlankEnd (line : List (List Char)) : List (List Char) :=
  match line.getLast? with
  | some piece => if piece.all isBlank then line.dropLast else line
  | none => line

def dropBlankStart (started : Bool) : List (List Char) → List (List Char)
  | [] => []
  | piece :: rest => if started && piece.all isBlank then rest else piece :: rest

def weight : List (List Char) → Nat
  | [] => 0
  | piece :: rest => piece.length + 1 + weight rest

theorem weight_cons (piece : List Char) (rest : List (List Char)) :
    weight (piece :: rest) = piece.length + 1 + weight rest := rfl

theorem weight_append (front back : List (List Char)) :
    weight (front ++ back) = weight front + weight back := by
  induction front with
  | nil => simp [weight]
  | cons piece rest ih =>
      rw [List.cons_append, weight_cons, weight_cons, ih]
      omega

theorem splitFit_append (room : Nat) (text : List (List Char)) :
    (splitFit room text).1 ++ (splitFit room text).2 = text := by
  induction text generalizing room with
  | nil => rfl
  | cons piece rest ih =>
      unfold splitFit
      split
      · simp [ih]
      · rfl

theorem splitFit_fst_eq_nil (room : Nat) (piece : List Char) (rest : List (List Char))
    (none : (splitFit room (piece :: rest)).1 = []) : room < piece.length := by
  unfold splitFit at none
  split at none
  · simp at none
  · omega

theorem breakPoint_pos (room : Nat) (piece : List Char) (positive : 0 < room) :
    0 < breakPoint room piece := by
  unfold breakPoint
  split
  · rename_i stop found
    split
    · simp only [afterLastHyphen] at found
      split at found
      · simp at found
      · rename_i nonempty
        simp only [Option.some.injEq] at found
        rw [← found]
        exact List.length_pos_iff.mpr (by simpa using nonempty)
    · exact positive
  · exact positive

theorem weight_dropBlankStart_le (started : Bool) (text : List (List Char)) :
    weight (dropBlankStart started text) ≤ weight text := by
  cases text with
  | nil => simp [dropBlankStart]
  | cons piece rest =>
      by_cases blank : (started && piece.all isBlank) = true
      · simp only [dropBlankStart, if_pos blank, weight_cons]
        omega
      · simp only [dropBlankStart, if_neg blank]
        exact Nat.le_refl _

theorem weight_takeLine_lt (column : Column) (piece : List Char) (rest : List (List Char)) :
    weight (takeLine column (piece :: rest)).2 < weight (piece :: rest) := by
  have total := splitFit_append column.width (piece :: rest)
  have first := splitFit_fst_eq_nil column.width piece rest
  unfold takeLine
  generalize splitFit column.width (piece :: rest) = cut at total first
  obtain ⟨taken, left⟩ := cut
  simp only at total first ⊢
  cases left with
  | nil =>
      simp only [weight]
      omega
  | cons next more =>
      rw [← total, weight_append, weight_cons]
      cases taken with
      | nil =>
          simp only [List.nil_append, List.cons.injEq] at total
          obtain ⟨rfl, rfl⟩ := total
          have wide := first rfl
          have reach := breakPoint_pos column.width next column.positive
          simp only [if_pos wide, List.flatten_nil, List.length_nil, Nat.sub_zero, weight_cons,
            List.length_drop]
          omega
      | cons head tail =>
          by_cases wide : column.width < next.length
          · simp only [if_pos wide, weight_cons, List.length_drop]
            omega
          · simp only [if_neg wide, weight_cons]
            omega

/-- The lines that the pieces fill; `started` says whether a line stands before them. -/
def fill (column : Column) (started : Bool) (text : List (List Char)) : List (List Char) :=
  match _start : dropBlankStart started text with
  | [] => []
  | piece :: rest =>
      let line := takeLine column (piece :: rest)
      match dropBlankEnd line.1 with
      | [] => fill column started line.2
      | kept => kept.flatten :: fill column true line.2
termination_by weight text
decreasing_by
  all_goals
    exact Nat.lt_of_lt_of_le (weight_takeLine_lt column piece rest)
      (_start ▸ weight_dropBlankStart_le started text)

def wrap (column : Column) (text : List Char) : List (List Char) :=
  fill column false (pieces text)

end SavingsSite.Text
