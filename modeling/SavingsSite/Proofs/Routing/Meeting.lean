import SavingsSite.Proofs.Routing.Spelling

set_option autoImplicit false

/-! Whether two templates fit one path. Two spellings share a text exactly when they meet, place by
place, and two templates exactly when some of their spellings do. The text of a template is no such
path in general: it fits the template once its numbers are taken for texts. -/

namespace SavingsSite.Routing

/-! ### Spellings that share a text -/

def Chars.meets : Chars → Chars → Bool
  | only c, other => other.has c
  | other, only c => other.has c
  | _, _ => true

theorem Chars.meets_iff (a b : Chars) : a.meets b = true ↔ ∃ c, a.has c = true ∧ b.has c = true := by
  have zero {first second : Chars} (holds : first.has '0' = true ∧ second.has '0' = true) :
      true = true ↔ ∃ c, first.has c = true ∧ second.has c = true := iff_of_true rfl ⟨'0', holds⟩
  have left (c : Char) : b.has c = true ↔ ∃ d, (only c).has d = true ∧ b.has d = true := by
    refine ⟨fun has => ⟨c, decide_eq_true rfl, has⟩, ?_⟩
    rintro ⟨d, same, has⟩
    rwa [← of_decide_eq_true same]
  have right (c : Char) : a.has c = true ↔ ∃ d, a.has d = true ∧ (only c).has d = true := by
    refine ⟨fun has => ⟨c, has, decide_eq_true rfl⟩, ?_⟩
    rintro ⟨d, has, same⟩
    rwa [← of_decide_eq_true same]
  cases a with
  | only c => exact left c
  | noSlash | noLineEnd | digit | hex =>
      cases b with
      | only c => exact right c
      | noSlash | noLineEnd | digit | hex => exact zero (by decide)

/-- Two spellings meet when they share a text: where both go on, one character serves both. -/
def Spelling.meets : Spelling → Spelling → Bool
  | [], [] => true
  | [], .one _ :: _ => false
  | [], .many _ :: rest => meets [] rest
  | .one _ :: _, [] => false
  | .many _ :: rest, [] => meets rest []
  | .one a :: first, .one b :: second => a.meets b && meets first second
  | .one a :: first, .many b :: second =>
      meets (.one a :: first) second || (a.meets b && meets first (.many b :: second))
  | .many a :: first, .one b :: second =>
      meets first (.one b :: second) || (a.meets b && meets (.many a :: first) second)
  | .many a :: first, .many b :: second =>
      meets first (.many b :: second) || meets (.many a :: first) second
  termination_by first second => first.length + second.length

theorem Spelling.exists_of_meets {first second : Spelling} (meeting : meets first second = true) :
    ∃ text, Spells first text ∧ Spells second text := by
  fun_induction meets first second with
  | case1 => exact ⟨[], .nil, .nil⟩
  | case2 => cases meeting
  | case3 b rest ih =>
      obtain ⟨text, spelled, spelledRest⟩ := ih meeting
      exact ⟨text, spelled, .stop spelledRest⟩
  | case4 => cases meeting
  | case5 a rest ih =>
      obtain ⟨text, spelledRest, spelled⟩ := ih meeting
      exact ⟨text, .stop spelledRest, spelled⟩
  | case6 a first b second ih =>
      rw [Bool.and_eq_true, Chars.meets_iff] at meeting
      obtain ⟨⟨c, left, right⟩, later⟩ := meeting
      obtain ⟨text, spelledFirst, spelledSecond⟩ := ih later
      exact ⟨c :: text, .one left spelledFirst, .one right spelledSecond⟩
  | case7 a first b second stop more =>
      rw [Bool.or_eq_true, Bool.and_eq_true, Chars.meets_iff] at meeting
      rcases meeting with stopped | ⟨⟨c, left, right⟩, later⟩
      · obtain ⟨text, spelledFirst, spelledSecond⟩ := stop stopped
        exact ⟨text, spelledFirst, .stop spelledSecond⟩
      · obtain ⟨text, spelledFirst, spelledSecond⟩ := more later
        exact ⟨c :: text, .one left spelledFirst, .more right spelledSecond⟩
  | case8 a first b second stop more =>
      rw [Bool.or_eq_true, Bool.and_eq_true, Chars.meets_iff] at meeting
      rcases meeting with stopped | ⟨⟨c, left, right⟩, later⟩
      · obtain ⟨text, spelledFirst, spelledSecond⟩ := stop stopped
        exact ⟨text, .stop spelledFirst, spelledSecond⟩
      · obtain ⟨text, spelledFirst, spelledSecond⟩ := more later
        exact ⟨c :: text, .more left spelledFirst, .one right spelledSecond⟩
  | case9 a first b second stopFirst stopSecond =>
      rw [Bool.or_eq_true] at meeting
      rcases meeting with stopped | stopped
      · obtain ⟨text, spelledFirst, spelledSecond⟩ := stopFirst stopped
        exact ⟨text, .stop spelledFirst, spelledSecond⟩
      · obtain ⟨text, spelledFirst, spelledSecond⟩ := stopSecond stopped
        exact ⟨text, spelledFirst, .stop spelledSecond⟩

theorem Spelling.meets_of_spells {first second : Spelling} {text : List Char}
    (spelledFirst : Spells first text) (spelledSecond : Spells second text) :
    meets first second = true := by
  fun_induction meets first second generalizing text with
  | case1 => rfl
  | case2 =>
      cases spelledFirst
      cases spelledSecond
  | case3 b rest ih =>
      cases spelledFirst
      cases spelledSecond with
      | stop later => exact ih .nil later
  | case4 =>
      cases spelledSecond
      cases spelledFirst
  | case5 a rest ih =>
      cases spelledSecond
      cases spelledFirst with
      | stop later => exact ih later .nil
  | case6 a first b second ih =>
      cases spelledFirst with
      | one left laterFirst =>
          cases spelledSecond with
          | one right laterSecond =>
              rw [Bool.and_eq_true, Chars.meets_iff]
              exact ⟨⟨_, left, right⟩, ih laterFirst laterSecond⟩
  | case7 a first b second stop more =>
      rw [Bool.or_eq_true, Bool.and_eq_true, Chars.meets_iff]
      cases spelledSecond with
      | stop later => exact Or.inl (stop spelledFirst later)
      | more right again =>
          cases spelledFirst with
          | one left later => exact Or.inr ⟨⟨_, left, right⟩, more later again⟩
  | case8 a first b second stop more =>
      rw [Bool.or_eq_true, Bool.and_eq_true, Chars.meets_iff]
      cases spelledFirst with
      | stop later => exact Or.inl (stop later spelledSecond)
      | more left again =>
          cases spelledSecond with
          | one right later => exact Or.inr ⟨⟨_, left, right⟩, more again later⟩
  | case9 a first b second stopFirst stopSecond =>
      rw [Bool.or_eq_true]
      induction text with
      | nil =>
          cases spelledFirst with
          | stop later => exact Or.inl (stopFirst later spelledSecond)
      | cons c text dropped =>
          cases spelledFirst with
          | stop later => exact Or.inl (stopFirst later spelledSecond)
          | more _ againFirst =>
              cases spelledSecond with
              | stop later => exact Or.inr (stopSecond (.more ‹_› againFirst) later)
              | more _ againSecond => exact dropped againFirst againSecond

theorem Spelling.meets_iff (first second : Spelling) :
    meets first second = true ↔ ∃ text, Spells first text ∧ Spells second text := by
  refine ⟨exists_of_meets, ?_⟩
  rintro ⟨text, spelledFirst, spelledSecond⟩
  exact meets_of_spells spelledFirst spelledSecond

/-! ### Templates that share a path -/

namespace Template

def meets (a b : Template) : Bool :=
  a.spellings.any fun first => b.spellings.any fun second => first.meets second

theorem meets_iff (a b : Template) :
    a.meets b = true ↔ ∃ path, a.fits path = true ∧ b.fits path = true := by
  simp only [meets, List.any_eq_true, Spelling.meets_iff, fits_iff]
  constructor
  · rintro ⟨first, firstMember, second, secondMember, text, spelledFirst, spelledSecond⟩
    exact ⟨text, ⟨first, firstMember, spelledFirst⟩, ⟨second, secondMember, spelledSecond⟩⟩
  · rintro ⟨text, ⟨first, firstMember, spelledFirst⟩, ⟨second, secondMember, spelledSecond⟩⟩
    exact ⟨first, firstMember, second, secondMember, text, spelledFirst, spelledSecond⟩

end Template

/-! ### The text of a template -/

def ParamKind.loosened : ParamKind → ParamKind
  | path => path
  | _ => segment

def Part.loosened : Part → Part
  | .char c => .char c
  | .parameter name kind => .parameter name kind.loosened

def Template.loosened (t : Template) : Template := t.map Part.loosened

def isPlaceholderChar (c : Char) : Bool := isNamePart c || c = ':'

theorem isNamePart_of_isNameStart {c : Char} (starts : isNameStart c = true) :
    isNamePart c = true := by
  rw [isNameStart, Bool.or_eq_true] at starts
  rw [isNamePart, Bool.or_eq_true, Char.isAlphanum, Bool.or_eq_true]
  exact starts.imp_left Or.inl

theorem of_readName? {input name rest : List Char} (read : readName? input = some (name, rest)) :
    input = name ++ rest ∧ ∀ c ∈ name, isPlaceholderChar c = true := by
  cases input with
  | nil => cases read
  | cons c input =>
      rw [readName?] at read
      split at read
      · rename_i starts
        cases read
        refine ⟨?_, List.forall_mem_cons.mpr ⟨?_, fun d member => ?_⟩⟩
        · rw [List.cons_append, List.takeWhile_append_dropWhile]
        · exact Bool.or_eq_true_iff.mpr (Or.inl (isNamePart_of_isNameStart starts))
        · exact Bool.or_eq_true_iff.mpr
            (Or.inl (List.all_eq_true.mp List.all_takeWhile d member))
      · cases read

theorem of_readParameter? {input name kind after : List Char}
    (read : readParameter? input = some (name, kind, after)) :
    ∃ inner, input = inner ++ '\x7d' :: after ∧ ∀ c ∈ inner, isPlaceholderChar c = true := by
  rw [readParameter?] at read
  split at read
  · rename_i named
    cases read
    exact ⟨_, of_readName? named⟩
  · rename_i more named
    split at read
    · rename_i kinded
      cases read
      obtain ⟨rfl, nameChars⟩ := of_readName? named
      obtain ⟨rfl, kindChars⟩ := of_readName? kinded
      refine ⟨name ++ ':' :: kind, ?_, ?_⟩
      · rw [List.append_assoc, List.cons_append]
      · exact List.forall_mem_append.mpr ⟨nameChars, List.forall_mem_cons.mpr ⟨rfl, kindChars⟩⟩
    · cases read
  · cases read

theorem accepts_placeholder (kind : ParamKind) {inner : List Char}
    (plain : ∀ c ∈ inner, isPlaceholderChar c = true) :
    kind.loosened.Accepts ('\x7b' :: inner ++ ['\x7d']) := by
  have avoids (d : Char) (outside : isPlaceholderChar d = false) (left : '\x7b' ≠ d)
      (right : '\x7d' ≠ d) : ∀ c ∈ '\x7b' :: inner ++ ['\x7d'], decide (c ≠ d) = true := by
    intro c member
    rw [decide_eq_true_eq]
    rintro rfl
    rcases List.mem_append.mp member with front | last
    · rcases List.mem_cons.mp front with first | inside
      · exact left first.symm
      · rw [plain c inside] at outside
        cases outside
    · exact right (List.mem_singleton.mp last).symm
  have segment : ParamKind.segment.Accepts ('\x7b' :: inner ++ ['\x7d']) := by
    refine ⟨_, List.mem_singleton.mpr rfl, (spells_run_iff _ _).mpr ⟨List.cons_ne_nil _ _, ?_⟩⟩
    exact avoids '/' (by decide) (by decide) (by decide)
  cases kind with
  | path =>
      refine ⟨_, List.mem_singleton.mpr rfl, (spells_many_iff _ _).mpr ?_⟩
      exact avoids '\n' (by decide) (by decide) (by decide)
  | segment | whole | real | uuid => exact segment

theorem readParts_loosened_fits {fuel : Nat} {input : List Char} {t : Template}
    (read : readParts fuel input = .ok t) (enough : input.length ≤ fuel) :
    t.loosened.fits input = true := by
  fun_induction readParts fuel input generalizing t with
  | case1 input =>
      cases read
      rw [List.length_eq_zero_iff.mp (Nat.le_zero.mp enough)]
      rfl
  | case2 =>
      cases read
      rfl
  | case3 => cases read
  | case4 fuel c rest name kindName after parameter kind known ih =>
      split at parameter
      · rename_i brace
        subst brace
        obtain ⟨inner, rfl, plain⟩ := of_readParameter? parameter
        cases readAfter : readParts fuel after with
        | error fault =>
            rw [readAfter] at read
            cases read
        | ok parts =>
            rw [readAfter] at read
            cases read
            rw [List.length_cons, List.length_append, List.length_cons] at enough
            refine (Template.fits_parameter_iff _ _ _ _).mpr
              ⟨_, after, ?_, accepts_placeholder kind plain, ih readAfter (by omega)⟩
            rw [List.append_assoc, List.cons_append, List.singleton_append]
      · cases parameter
  | case5 fuel c rest literal ih =>
      cases readRest : readParts fuel rest with
      | error fault =>
          rw [readRest] at read
          cases read
      | ok parts =>
          rw [readRest] at read
          cases read
          exact (Template.fits_char_iff _ _ _).mpr
            ⟨rest, rfl, ih readRest (Nat.le_of_succ_le_succ enough)⟩

namespace Template

theorem ofPath_eq_ok_readParts {path : String} {t : Template} (rooted : path.toList.head? = some '/')
    (made : ofPath path = .ok t) : readParts path.toList.length path.toList = .ok t := by
  rw [ofPath] at made
  simp only [if_pos rooted] at made
  split at made
  · cases made
  · rename_i read
    split at made
    · cases made
    · cases made
      exact read

theorem loosened_fits_text {path : String} {t : Template} (rooted : path.toList.head? = some '/')
    (made : ofPath path = .ok t) : t.loosened.fits path.toList = true :=
  readParts_loosened_fits (ofPath_eq_ok_readParts rooted made) (Nat.le_refl _)

end Template

end SavingsSite.Routing
