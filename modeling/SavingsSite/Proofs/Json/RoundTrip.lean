import SavingsSite.Json.Printer
import SavingsSite.Json.Scan
import SavingsSite.Proofs.Text.Decimal

set_option autoImplicit false

/-! The reader takes back what the printer writes. What the reader makes of the text after a value
is fixed first, so each part of a value is read on its own: a value that is read with some text
behind it leads to the state in which it has been delivered. -/

namespace SavingsSite.Json

open Text (Symbol digit? hexValue?)

/-- Reading on from a state gives a value, wherever the text stands. -/
def Gives (d : Dialect) (state : State) (input : List Symbol) (result : Json) : Prop :=
  ∀ place, scanFrom d place state input = .ok result

variable {d : Dialect} {stack : List Frame} {rest : List Symbol} {result : Json}

theorem Gives.step {state : State} {s : Symbol} (next : Nat → State)
    (stepped : ∀ place, step? d place state s = some (next place))
    (later : ∀ place, Gives d (next place) rest result) : Gives d state (s :: rest) result := by
  intro place
  simp only [scanFrom, stepped place]
  exact later place (place + 1)

theorem Gives.next {state : State} {s : Symbol} (gives : Gives d state (s :: rest) result)
    (place : Nat) :
    ∃ next, step? d place state s = some next ∧ scanFrom d (place + 1) next rest = .ok result := by
  have found := gives place
  rw [scanFrom] at found
  cases stepped : step? d place state s with
  | none =>
      rw [stepped] at found
      cases found
  | some next =>
      rw [stepped] at found
      exact ⟨next, rfl, found⟩

theorem before_eq (shown : List Char) (rest : List Symbol) :
    before shown rest = shown.map Symbol.char ++ rest := by
  induction shown with
  | nil => rfl
  | cons c more ih => exact congrArg (List.cons (Symbol.char c)) ih

def AllUnescaped (text : List Char) : Prop := ∀ c ∈ text, escape? c = none

instance (text : List Char) : Decidable (AllUnescaped text) :=
  decidable_of_iff ((text.all fun c => (escape? c).isNone) = true) <| by
    simp only [AllUnescaped, List.all_eq_true, Option.isNone_iff_eq_none]

theorem stringBefore_plain {text : String} (plain : AllUnescaped text.toList)
    (rest : List Symbol) :
    stringBefore (.sound text) rest =
      .char '"' :: (text.toList.map Symbol.char ++ .char '"' :: rest) := by
  rw [stringBefore, JsonString.symbols, Text.symbols]
  congr 1
  generalize text.toList = chars at plain ⊢
  induction chars with
  | nil => rfl
  | cons c more ih =>
      rw [List.map_cons, List.foldr_cons, symbolBefore, plain c List.mem_cons_self]
      exact congrArg (List.cons (Symbol.char c))
        (ih fun other member => plain other (List.mem_cons_of_mem c member))

/-! ### Words -/

theorem gives_word (start : Nat) (first : Char) (more : List Char) (value : Json)
    (later : Gives d (deliver value stack) rest result) :
    Gives d ⟨stack, .word start (first :: more) value⟩ (before (first :: more) rest) result := by
  induction more generalizing first with
  | nil =>
      refine Gives.step (fun _ => deliver value stack) (fun _ => ?_) (fun _ => later)
      simp only [step?, stepChar?, if_true]
  | cons second others ih =>
      refine Gives.step (fun _ => ⟨stack, .word start (second :: others) value⟩) (fun _ => ?_)
        (fun _ => ih second)
      simp only [step?, stepChar?, if_true]

/-! ### Numbers -/

def EndsNumber : List Symbol → Prop
  | .char c :: _ => digit? c = none ∧ c ≠ '.' ∧ c ≠ 'e' ∧ c ≠ 'E'
  | _ => True

theorem stepChar?_deliver (place : Nat) (value : Json) (c : Char) :
    stepChar? d place (deliver value stack) c = follow? (deliver value stack) c := by
  cases stack with
  | nil => rfl
  | cons frame others => cases frame <;> rfl

theorem not_step?_half_deliver (place : Nat) (value : Json) (unit : Nat) :
    step? d place (deliver value stack) (.half unit) = none := by
  cases stack with
  | nil => rfl
  | cons frame others => cases frame <;> rfl

theorem push?_of_ends {n : Numeral} {c : Char} (whole : n.isWhole = true)
    (notDigit : digit? c = none) (noPoint : c ≠ '.') (noMark : c ≠ 'e') (noCapital : c ≠ 'E') :
    n.push? d c = none := by
  simp only [Numeral.isWhole, Bool.or_eq_true, beq_iff_eq] at whole
  rcases whole with phase | phase
  · simp only [Numeral.push?, phase, notDigit, if_neg noPoint, decide_eq_false noMark,
      decide_eq_false noCapital, Bool.or_self, Bool.false_eq_true, if_false]
  · simp only [Numeral.push?, phase, notDigit, if_neg noPoint, decide_eq_false noMark,
      decide_eq_false noCapital, Bool.or_self, Bool.false_eq_true, if_false]

theorem gives_number_end {n : Numeral} (whole : n.isWhole = true) (short : n.size ≤ d.digits)
    (ends : EndsNumber rest) (later : Gives d (deliver n.value stack) rest result) :
    Gives d ⟨stack, .number n⟩ rest result := by
  have notTooLong : n.tooLong d = false := by
    rw [Numeral.tooLong, whole, Bool.true_and, decide_eq_false_iff_not, Nat.not_lt]
    exact short
  have complete : n.complete = true := by
    rw [Numeral.complete, Bool.or_eq_true, Bool.or_eq_true]
    exact Or.inl (Or.inl whole)
  have notSign : n.phase ≠ .sign := by
    intro phase
    rw [Numeral.isWhole, phase] at whole
    cases whole
  intro place
  cases rest with
  | nil =>
      have found := later place
      rw [scanFrom] at found ⊢
      cases stack with
      | cons frame others => cases frame <;> cases found
      | nil =>
          cases found
          simp only [State.value?, complete, notTooLong, Bool.not_false, Bool.and_self, if_true]
  | cons s more =>
      obtain ⟨next, stepped, found⟩ := later.next place
      cases s with
      | half unit =>
          rw [not_step?_half_deliver] at stepped
          cases stepped
      | char c =>
          obtain ⟨notDigit, noPoint, noMark, noCapital⟩ := ends
          have pushed : n.push? d c = none :=
            push?_of_ends whole notDigit noPoint noMark noCapital
          rw [step?, stepChar?_deliver] at stepped
          simp only [scanFrom, step?, stepChar?, pushed, decide_eq_false notSign, complete,
            notTooLong, notDigit, Option.isNone_none, Bool.false_and, Bool.false_eq_true, if_false,
            Bool.not_false, Bool.and_self, if_true, stepped, found]

theorem gives_digits (digits : List Char) (allDigits : ∀ c ∈ digits, c.isDigit = true)
    (n : Numeral) (phase : n.phase = .whole) (short : n.size + digits.length ≤ d.digits)
    (later : Gives d ⟨stack, .number { n with
      digits := Nat.ofDigitChars 10 digits n.digits, size := n.size + digits.length }⟩ rest
      result) :
    Gives d ⟨stack, .number n⟩ (before digits rest) result := by
  induction digits generalizing n with
  | nil => exact later
  | cons c more ih =>
      have digit := Text.digit?_of_isDigit (allDigits c List.mem_cons_self)
      rw [List.length_cons] at short
      have room : (d.cappedNumbers && d.digits ≤ n.size) = false := by
        rw [Bool.and_eq_false_iff, decide_eq_false_iff_not]
        omega
      refine Gives.step (fun _ => ⟨stack, .number { n with
        digits := n.digits * 10 + (c.toNat - '0'.toNat), size := n.size + 1 }⟩)
        (fun place => ?_) (fun _ => ?_)
      · simp only [step?, stepChar?, Numeral.push?, phase, digit, room, Bool.false_eq_true,
          if_false]
      · have shorter : n.size + 1 + more.length ≤ d.digits := by omega
        refine ih (fun other member => allDigits other (List.mem_cons_of_mem c member)) _ phase
          shorter ?_
        rw [Nat.ofDigitChars_cons, Nat.mul_comm, List.length_cons, Nat.add_comm more.length,
          ← Nat.add_assoc] at later
        exact later

def Numeral.ofDigit (start : Nat) (negative : Bool) (k : Nat) : Numeral :=
  { start := start, phase := if k = 0 then .zero else .whole, negative := negative, digits := k,
    size := 1 }

theorem gives_decimal (n start : Nat) (negative : Bool) (first : Char) (more : List Char)
    (spelled : Nat.toDigits 10 n = first :: more)
    (short : (Nat.toDigits 10 n).length ≤ d.digits) (ends : EndsNumber rest)
    (later : Gives d (deliver (.whole (if negative then -(n : Int) else n)) stack) rest result) :
    Gives d ⟨stack, .number (.ofDigit start negative (first.toNat - '0'.toNat))⟩
      (before more rest) result := by
  obtain ⟨c, cs, sameSpelling, digit, digits, value, zero⟩ := Text.exists_decimal n
  rw [spelled] at sameSpelling short
  cases sameSpelling
  by_cases isZero : first = '0'
  · obtain ⟨rfl, rfl⟩ := zero isZero
    subst isZero
    apply gives_number_end rfl short ends
    exact later
  · have notZero : first.toNat - '0'.toNat ≠ 0 := by
      intro none
      apply isZero
      apply Char.toNat_inj.mp
      have least : '0'.toNat ≤ first.toNat := by
        have bounds := digit
        rw [Char.isDigit, Bool.and_eq_true, decide_eq_true_eq] at bounds
        exact bounds.1
      omega
    rw [Numeral.ofDigit, if_neg notZero]
    refine gives_digits more digits _ rfl ?_ ?_
    · rw [Nat.add_comm]
      exact short
    · refine gives_number_end rfl ?_ ends ?_
      · rw [Nat.add_comm]
        exact short
      · rw [value]
        exact later

theorem step?_value {opening : Opening} {c : Char} (place : Nat) (notBlank : isJsonBlank c = false)
    (notEnd : c ≠ ']') (level : stack.length ≤ d.depth) :
    step? d place ⟨stack, .value opening⟩ (.char c) = openValue? place stack c := by
  have notBoth : (decide (opening = .firstItem) && decide (c = ']')) = false := by
    rw [decide_eq_false notEnd, Bool.and_false]
  simp only [step?, stepChar?, notBlank, notBoth, Bool.false_eq_true, if_false,
    if_neg (Nat.not_lt.mpr level)]

theorem openValue?_digit {c : Char} (place : Nat) (digit : c.isDigit = true) :
    openValue? place stack c =
      some ⟨stack, .number (.ofDigit place false (c.toNat - '0'.toNat))⟩ := by
  have ne (other : Char) (notDigit : other.isDigit = false) : c ≠ other :=
    Text.ne_of_isDigit digit notDigit
  simp only [openValue?, if_neg (ne '"' rfl), if_neg (ne '[' rfl),
    if_neg (ne '\x7b' rfl), if_neg (ne 't' rfl),
    if_neg (ne 'f' rfl), if_neg (ne 'n' rfl),
    if_neg (ne 'N' rfl), if_neg (ne 'I' rfl),
    if_neg (ne '-' rfl), Text.digit?_of_isDigit digit, Numeral.ofDigit]

theorem not_isJsonBlank_digit {c : Char} (digit : c.isDigit = true) : isJsonBlank c = false := by
  have ne (other : Char) (notDigit : other.isDigit = false) : c ≠ other :=
    Text.ne_of_isDigit digit notDigit
  simp only [isJsonBlank, decide_eq_false (ne ' ' rfl),
    decide_eq_false (ne '\t' rfl), decide_eq_false (ne '\n' rfl),
    decide_eq_false (ne '\r' rfl), Bool.or_self]

def Numeral.ofMinus (start : Nat) : Numeral :=
  { start := start, phase := .sign, negative := true }

theorem push?_ofMinus {c : Char} (start : Nat) (digit : c.isDigit = true) :
    (Numeral.ofMinus start).push? d c = some (.ofDigit start true (c.toNat - '0'.toNat)) := by
  simp only [Numeral.push?, Numeral.ofMinus, Text.digit?_of_isDigit digit, Numeral.ofDigit]

theorem gives_whole {opening : Opening} (n : Int)
    (short : (Nat.toDigits 10 n.natAbs).length ≤ d.digits) (level : stack.length ≤ d.depth)
    (ends : EndsNumber rest) (later : Gives d (deliver (.whole n) stack) rest result) :
    Gives d ⟨stack, .value opening⟩ (before (toString n).toList rest) result := by
  obtain ⟨first, more, spelled, digit, _, _, _⟩ := Text.exists_decimal n.natAbs
  cases n with
  | ofNat m =>
      have text : (toString (Int.ofNat m)).toList = first :: more :=
        (Text.toList_toString_ofNat m).trans spelled
      rw [text]
      refine Gives.step _ (fun place => ?_)
        (fun start => gives_decimal m start false first more spelled short ends later)
      rw [step?_value place (not_isJsonBlank_digit digit) (Text.ne_of_isDigit digit rfl) level]
      exact openValue?_digit place digit
  | negSucc m =>
      have text : (toString (Int.negSucc m)).toList = '-' :: first :: more := by
        rw [← spelled]
        exact Text.toList_toString_negSucc m
      rw [text]
      refine Gives.step (fun place => ⟨stack, .number (.ofMinus place)⟩) (fun place => ?_)
        (fun start => ?_)
      · rw [step?_value place rfl (by decide) level]
        rfl
      · refine Gives.step (fun _ => ⟨stack, .number (.ofDigit start true
          (first.toNat - '0'.toNat))⟩) (fun place => ?_)
          (fun _ => gives_decimal (m + 1) start true first more spelled short ends later)
        simp only [step?, stepChar?, push?_ofMinus start digit]

/-! ### Strings -/

def Reading.Whole (r : Reading) : Prop := ∃ text : List Char, r.done = text.map Symbol.char

theorem Reading.Whole.openHalf? {r : Reading} (whole : r.Whole) : r.openHalf? = none := by
  obtain ⟨text, done⟩ := whole
  unfold Reading.openHalf?
  rw [done]
  cases r.recent with
  | none => rfl
  | some mark =>
      cases text with
      | nil => rfl
      | cons c more => rfl

theorem hexText_control (m : Nat) (small : m < 32) :
    Text.hexText 4 m = ['0', '0', Nat.digitChar (m / 16), Nat.digitChar (m % 16)] := by
  revert m
  decide

theorem gives_unit (r : Reading) (mark count value k : Nat) (c : Char)
    (digit : hexValue? c = some k) (more : count < 3)
    (later : Gives d ⟨stack, .unit r mark (count + 1) (value * 16 + k)⟩ rest result) :
    Gives d ⟨stack, .unit r mark count value⟩ (.char c :: rest) result := by
  refine Gives.step (fun _ => ⟨stack, .unit r mark (count + 1) (value * 16 + k)⟩) (fun _ => ?_)
    (fun _ => later)
  simp only [step?, stepChar?, digit, if_pos more]

theorem gives_unit_end (r : Reading) (whole : r.Whole) (mark value k unit : Nat) (c : Char)
    (digit : hexValue? c = some k) (sum : value * 16 + k = unit)
    (notHigh : Text.isHighHalf unit = false) (notLow : Text.isLowHalf unit = false)
    (later : Gives d ⟨stack, .string { r with
      done := .char (Char.ofNat unit) :: r.done, recent := some mark }⟩ rest result) :
    Gives d ⟨stack, .unit r mark 3 value⟩ (.char c :: rest) result := by
  refine Gives.step (fun _ => ⟨stack, .string { r with
    done := .char (Char.ofNat unit) :: r.done, recent := some mark }⟩) (fun _ => ?_)
    (fun _ => later)
  have notLess : ¬ 3 < 3 := Nat.lt_irrefl 3
  simp only [step?, stepChar?, digit, if_neg notLess, sum, Reading.pushUnit?, whole.openHalf?,
    notLow, Bool.false_and, Bool.false_eq_true, if_false, Symbol.ofUnit, notHigh, Bool.or_self,
    Option.map_some]

theorem gives_symbol (r : Reading) (whole : r.Whole) (c : Char)
    (later : ∀ recent, Gives d
      ⟨stack, .string { r with done := .char c :: r.done, recent := recent }⟩ rest result) :
    Gives d ⟨stack, .string r⟩ (symbolBefore (.char c) rest) result := by
  have noHalf := whole.openHalf?
  have escaped (plain : Char) (meaning : unescape? plain = some c) (notUnit : plain ≠ 'u') :
      Gives d ⟨stack, .string r⟩ (.char '\\' :: .char plain :: rest) result := by
    refine Gives.step (fun place => ⟨stack, .escape r place⟩) (fun _ => rfl) (fun slash => ?_)
    refine Gives.step (fun _ => ⟨stack, .string (r.push (.char c))⟩) (fun _ => ?_)
      (fun _ => later none)
    simp only [step?, stepChar?, if_neg notUnit, noHalf, Option.isSome_none, Bool.and_false,
      Bool.false_eq_true, if_false, meaning, Option.map_some]
  by_cases quote : c = '"'
  · subst quote
    exact escaped '"' rfl (by decide)
  by_cases slash : c = '\\'
  · subst slash
    exact escaped '\\' rfl (by decide)
  by_cases line : c = '\n'
  · subst line
    exact escaped 'n' rfl (by decide)
  by_cases carriage : c = '\r'
  · subst carriage
    exact escaped 'r' rfl (by decide)
  by_cases tab : c = '\t'
  · subst tab
    exact escaped 't' rfl (by decide)
  by_cases back : c = '\x08'
  · subst back
    exact escaped 'b' rfl (by decide)
  by_cases feed : c = '\x0c'
  · subst feed
    exact escaped 'f' rfl (by decide)
  by_cases control : c.toNat < 0x20
  · have shown : escape? c = some ('\\' :: 'u' :: Text.hexText 4 c.toNat) := by
      simp only [escape?, if_neg quote, if_neg slash, if_neg line, if_neg carriage, if_neg tab,
        if_neg back, if_neg feed, if_pos control]
    have high : c.toNat / 16 < 16 := by omega
    have low : c.toNat % 16 < 16 := Nat.mod_lt _ (by decide)
    have notHigh : Text.isHighHalf c.toNat = false := by
      rw [Text.isHighHalf, Bool.and_eq_false_iff, decide_eq_false_iff_not]
      omega
    have notLow : Text.isLowHalf c.toNat = false := by
      rw [Text.isLowHalf, Bool.and_eq_false_iff, decide_eq_false_iff_not]
      omega
    simp only [symbolBefore, shown, hexText_control c.toNat control]
    refine Gives.step (fun place => ⟨stack, .escape r place⟩) (fun _ => rfl) (fun slash => ?_)
    refine Gives.step (fun place => ⟨stack, .unit r place 0 0⟩) (fun _ => rfl) (fun mark => ?_)
    apply gives_unit r mark 0 0 0 '0' rfl (by decide)
    apply gives_unit r mark 1 0 0 '0' rfl (by decide)
    apply gives_unit r mark 2 0 _ _ (Text.hexValue?_digitChar _ high) (by decide)
    refine gives_unit_end r whole mark _ _ c.toNat _ (Text.hexValue?_digitChar _ low) (by omega)
      notHigh notLow ?_
    rw [Char.ofNat_toNat]
    exact later (some mark)
  · have plain : escape? c = none := by
      simp only [escape?, if_neg quote, if_neg slash, if_neg line, if_neg carriage, if_neg tab,
        if_neg back, if_neg feed, if_neg control]
    simp only [symbolBefore, plain]
    refine Gives.step (fun _ => ⟨stack, .string (r.push (.char c))⟩) (fun _ => ?_)
      (fun _ => later none)
    simp only [step?, stepChar?, if_neg slash, noHalf, Option.isSome_none, Bool.and_false,
      Bool.false_eq_true, if_false, if_neg quote, if_neg control]

def closed (isName : Bool) (text : List Char) (stack : List Frame) : State :=
  Reading.close { start := 0, isName, done := (text.map Symbol.char).reverse } stack

theorem gives_symbols (text done : List Char) (r : Reading)
    (read : r.done = (done.map Symbol.char).reverse)
    (later : Gives d (closed r.isName (done ++ text) stack) rest result) :
    Gives d ⟨stack, .string r⟩
      ((text.map Symbol.char).foldr symbolBefore (.char '"' :: rest)) result := by
  have whole : r.Whole := ⟨done.reverse, by rw [read, List.map_reverse]⟩
  induction text generalizing done r with
  | nil =>
      refine Gives.step (fun _ => closed r.isName (done ++ []) stack) (fun _ => ?_)
        (fun _ => later)
      simp only [step?, stepChar?, whole.openHalf?, Option.isSome_none, Bool.and_false,
        Bool.false_eq_true, if_false, Char.reduceEq, if_true, closed, Reading.close, read,
        List.append_nil]
  | cons c more ih =>
      refine gives_symbol r whole c (fun recent => ?_)
      have extended : Symbol.char c :: r.done = ((done ++ [c]).map Symbol.char).reverse := by
        rw [read, List.map_append, List.reverse_append]
        rfl
      refine ih (done ++ [c]) _ extended ?_ ⟨(done ++ [c]).reverse, ?_⟩
      · rw [List.append_assoc, List.singleton_append]
        exact later
      · rw [List.map_reverse, ← extended]

theorem closed_text (text : String) :
    closed false text.toList stack = deliver (.text (.sound text)) stack := by
  rw [← JsonString.ofSymbols_symbols_sound text]
  simp only [closed, Reading.close, Bool.false_eq_true, if_false, List.reverse_reverse]
  rfl

theorem closed_name (text : String) (fields : Fields) :
    closed true text.toList (.record fields :: stack) =
      ⟨.entry fields (.sound text) :: stack, .colon⟩ := by
  rw [← JsonString.ofSymbols_symbols_sound text]
  simp only [closed, Reading.close, if_true, List.reverse_reverse]
  rfl

theorem gives_text {opening : Opening} (text : String) (level : stack.length ≤ d.depth)
    (later : Gives d (deliver (.text (.sound text)) stack) rest result) :
    Gives d ⟨stack, .value opening⟩ (stringBefore (.sound text) rest) result := by
  refine Gives.step (fun place => ⟨stack, .string { start := place, isName := false }⟩)
    (fun place => ?_) (fun _ => gives_symbols text.toList [] _ rfl ?_)
  · rw [step?_value place rfl (by decide) level]
    rfl
  · rw [List.nil_append, closed_text]
    exact later

theorem gives_name {first : Bool} {fields : Fields} (name : String)
    (later : Gives d ⟨.entry fields (.sound name) :: stack, .value .fieldValue⟩ rest result) :
    Gives d ⟨.record fields :: stack, .name first⟩
      (stringBefore (.sound name) (.char ':' :: rest)) result := by
  refine Gives.step
    (fun place => ⟨.record fields :: stack, .string { start := place, isName := true }⟩)
    (fun _ => rfl) (fun _ => gives_symbols name.toList [] _ rfl ?_)
  rw [List.nil_append, closed_name]
  exact Gives.step (fun _ => ⟨.entry fields (.sound name) :: stack, .value .fieldValue⟩)
    (fun _ => rfl) (fun _ => later)

/-! ### Values -/

mutual

/-- A value that is read back from its text inside `level` containers: its strings are sound, its
numbers whole and not too long, the names of a record distinct, and containers not too deep. -/
def Readable (d : Dialect) (level : Nat) : Json → Prop
  | null => level ≤ d.depth
  | flag _ => level ≤ d.depth
  | whole n => level ≤ d.depth ∧ (Nat.toDigits 10 n.natAbs).length ≤ d.digits
  | real _ => False
  | text value => level ≤ d.depth ∧ value.sound?.isSome = true
  | list items => level ≤ d.depth ∧ ItemsReadable d (level + 1) items
  | record fields =>
      level ≤ d.depth ∧ (fields.map Prod.fst).Nodup ∧ FieldsReadable d (level + 1) fields

def ItemsReadable (d : Dialect) (level : Nat) : List Json → Prop
  | [] => True
  | value :: more => Readable d level value ∧ ItemsReadable d level more

def FieldsReadable (d : Dialect) (level : Nat) : List (JsonString × Json) → Prop
  | [] => True
  | (name, value) :: more =>
      name.sound?.isSome = true ∧ Readable d level value ∧ FieldsReadable d level more

end

theorem exists_sound {text : JsonString} (sound : text.sound?.isSome = true) :
    ∃ chars, text = .sound chars := by
  cases text with
  | sound chars => exact ⟨chars, rfl⟩
  | torn symbols => cases sound

theorem Fields.put_new {name : JsonString} (value : Json) {fields : Fields}
    (new : name ∉ fields.map Prod.fst) : Fields.put name value fields = fields ++ [(name, value)] := by
  induction fields with
  | nil => rfl
  | cons field more ih =>
      obtain ⟨other, old⟩ := field
      rw [List.map_cons, List.mem_cons, not_or] at new
      rw [Fields.put, if_neg (Ne.symm new.1), ih new.2, List.cons_append]

theorem endsNumber_printItems (items : List Json) :
    EndsNumber (printItems (.char ']' :: rest) false items) := by
  cases items with
  | nil =>
      rw [printItems, EndsNumber]
      decide
  | cons value more =>
      rw [printItems, if_neg Bool.false_ne_true, EndsNumber]
      decide

theorem endsNumber_printFields (fields : Fields) :
    EndsNumber (printFields (.char '\x7d' :: rest) false fields) := by
  cases fields with
  | nil =>
      rw [printFields, EndsNumber]
      decide
  | cons field more =>
      rw [printFields, if_neg Bool.false_ne_true, EndsNumber]
      decide

mutual

/-- A value read with some text behind it leads to the state in which it has been delivered. -/
theorem gives_value (stack : List Frame) (rest : List Symbol) (opening : Opening) (value : Json)
    (readable : Readable d stack.length value)
    (ends : EndsNumber rest) (later : Gives d (deliver value stack) rest result) :
    Gives d ⟨stack, .value opening⟩ (printBefore rest value) result := by
  cases value with
  | null =>
      rw [Readable] at readable
      refine Gives.step (fun place => ⟨stack, .word place "ull".toList .null⟩) (fun place => ?_)
        (fun start => gives_word start 'u' ['l', 'l'] .null later)
      rw [step?_value place rfl (by decide) readable]
      rfl
  | flag answer =>
      rw [Readable] at readable
      cases answer with
      | true =>
          refine Gives.step (fun place => ⟨stack, .word place "rue".toList (.flag true)⟩)
            (fun place => ?_) (fun start => gives_word start 'r' ['u', 'e'] (.flag true) later)
          rw [step?_value place rfl (by decide) readable]
          rfl
      | false =>
          refine Gives.step (fun place => ⟨stack, .word place "alse".toList (.flag false)⟩)
            (fun place => ?_)
            (fun start => gives_word start 'a' ['l', 's', 'e'] (.flag false) later)
          rw [step?_value place rfl (by decide) readable]
          rfl
  | whole n =>
      rw [Readable] at readable
      exact gives_whole n readable.2 readable.1 ends later
  | real x =>
      rw [Readable] at readable
      exact readable.elim
  | text value =>
      rw [Readable] at readable
      obtain ⟨chars, rfl⟩ := exists_sound readable.2
      exact gives_text chars readable.1 later
  | list items =>
      rw [Readable] at readable
      refine Gives.step (fun _ => ⟨.list [] :: stack, .value .firstItem⟩) (fun place => ?_)
        (fun _ => gives_items stack rest items [] true readable.2 later)
      rw [step?_value place rfl (by decide) readable.1]
      rfl
  | record fields =>
      rw [Readable] at readable
      refine Gives.step (fun _ => ⟨.record [] :: stack, .name true⟩) (fun place => ?_)
        (fun _ => gives_fields stack rest fields [] true readable.2.1 readable.2.2 later)
      rw [step?_value place rfl (by decide) readable.1]
      rfl

theorem gives_items (stack : List Frame) (rest : List Symbol) (items done : List Json) (first : Bool)
    (readable : ItemsReadable d (stack.length + 1) items)
    (later : Gives d (deliver (.list (done.reverse ++ items)) stack) rest result) :
    Gives d ⟨.list done :: stack, if first then .value .firstItem else .next⟩
      (printItems (.char ']' :: rest) first items) result := by
  cases items with
  | nil =>
      rw [List.append_nil] at later
      refine Gives.step (fun _ => deliver (.list done.reverse) stack) (fun _ => ?_) (fun _ => later)
      cases first <;> rfl
  | cons value more =>
      rw [ItemsReadable] at readable
      have follows : Gives d ⟨.list (value :: done) :: stack, .next⟩
          (printItems (.char ']' :: rest) false more) result := by
        apply gives_items stack rest more (value :: done) false readable.2
        rw [List.reverse_cons, List.append_assoc, List.singleton_append]
        exact later
      have own (opening : Opening) := gives_value (.list done :: stack) _ opening value readable.1
        (endsNumber_printItems more) follows
      cases first with
      | true => exact own .firstItem
      | false =>
          exact Gives.step (fun _ => ⟨.list done :: stack, .value .nextItem⟩) (fun _ => rfl)
            (fun _ => own .nextItem)

theorem gives_fields (stack : List Frame) (rest : List Symbol) (fields done : Fields) (first : Bool)
    (distinct : ((done ++ fields).map Prod.fst).Nodup)
    (readable : FieldsReadable d (stack.length + 1) fields)
    (later : Gives d (deliver (.record (done ++ fields)) stack) rest result) :
    Gives d ⟨.record done :: stack, if first then .name true else .next⟩
      (printFields (.char '\x7d' :: rest) first fields) result := by
  cases fields with
  | nil =>
      rw [List.append_nil] at later
      refine Gives.step (fun _ => deliver (.record done) stack) (fun _ => ?_) (fun _ => later)
      cases first <;> rfl
  | cons field more =>
      obtain ⟨name, value⟩ := field
      rw [FieldsReadable] at readable
      obtain ⟨chars, rfl⟩ := exists_sound readable.1
      have regroup : done ++ (.sound chars, value) :: more =
          (done ++ [(.sound chars, value)]) ++ more := by
        rw [List.append_assoc, List.singleton_append]
      rw [regroup] at distinct later
      have new : .sound chars ∉ done.map Prod.fst := by
        rw [List.map_append, List.map_append] at distinct
        have separate := (List.nodup_append.mp (List.nodup_append.mp distinct).1).2.2
        intro member
        exact separate _ member _ List.mem_cons_self rfl
      have follows : Gives d ⟨.record (done ++ [(.sound chars, value)]) :: stack, .next⟩
          (printFields (.char '\x7d' :: rest) false more) result :=
        gives_fields stack rest more (done ++ [(.sound chars, value)]) false distinct readable.2.2 later
      rw [← Fields.put_new value new] at follows
      have own (isFirst : Bool) : Gives d ⟨.record done :: stack, .name isFirst⟩ (stringBefore
          (.sound chars) (.char ':' :: printBefore (printFields (.char '\x7d' :: rest) false more)
            value)) result :=
        gives_name chars (gives_value (.entry done (.sound chars) :: stack) _ .fieldValue
          value readable.2.1 (endsNumber_printFields more) follows)
      cases first with
      | true => exact own true
      | false =>
          exact Gives.step (fun _ => ⟨.record done :: stack, .name false⟩) (fun _ => rfl)
            (fun _ => own false)

end

theorem scan_print (value : Json) (readable : Readable d 0 value) :
    scan d value.print = .ok value :=
  gives_value [] [] .top value readable trivial (fun _ => rfl) 0

end SavingsSite.Json
