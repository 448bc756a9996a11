import SavingsSite.Text.Blank
import SavingsSite.Text.Encoding
import SavingsSite.Text.Percent

set_option autoImplicit false

/-! ASCII texts. Each character is one byte, so every reader of bytes gives the text back, and a text
without escapes is its own decoding. -/

namespace SavingsSite.Text

def AllAscii (text : List Char) : Prop := ∀ c ∈ text, isAscii c = true

instance (text : List Char) : Decidable (AllAscii text) :=
  decidable_of_iff (text.all isAscii = true) List.all_eq_true

theorem isAscii_iff (c : Char) : isAscii c = true ↔ c.toNat < 0x80 := decide_eq_true_iff

theorem AllAscii.tail {c : Char} {rest : List Char} (ascii : AllAscii (c :: rest)) :
    AllAscii rest := fun other member => ascii other (List.mem_cons_of_mem c member)

theorem isAscii_of_isDigit {c : Char} (digit : c.isDigit = true) : isAscii c = true := by
  rw [isAscii_iff]
  rw [Char.isDigit, Bool.and_eq_true, decide_eq_true_eq, decide_eq_true_eq] at digit
  have greatest : c.toNat ≤ '9'.toNat := digit.2
  have bound : '9'.toNat < 0x80 := by decide
  omega

def bytesOf (text : List Char) : Bytes := text.flatMap String.utf8EncodeChar

theorem values_utf8EncodeChar {c : Char} (ascii : isAscii c = true) :
    (String.utf8EncodeChar c).map UInt8.toNat = [c.toNat] := by
  rw [isAscii_iff] at ascii
  have small : c.val.toNat ≤ 127 := Nat.le_of_lt_succ ascii
  simp only [String.utf8EncodeChar, if_pos small, List.map_cons, List.map_nil, UInt8.toNat_ofNat']
  rw [Nat.mod_eq_of_lt (by omega)]
  rfl

theorem encodeUtf8_ascii {text : List Char} (ascii : AllAscii text) :
    encodeUtf8 text = text.map Char.toNat := by
  induction text with
  | nil => rfl
  | cons c rest ih =>
      rw [encodeUtf8, List.flatMap_cons, values_utf8EncodeChar (ascii c List.mem_cons_self)]
      rw [encodeUtf8] at ih
      rw [ih ascii.tail]
      rfl

theorem values_bytesOf {text : List Char} (ascii : AllAscii text) :
    values (bytesOf text) = text.map Char.toNat := by
  rw [← encodeUtf8_ascii ascii, values, bytesOf, List.map_flatMap]
  rfl

theorem utf8Step_ascii {c : Char} (ascii : isAscii c = true) (rest : List Nat) :
    utf8Step c.toNat rest = .char c 1 := by
  rw [isAscii_iff] at ascii
  unfold utf8Step
  rw [if_pos ascii, Char.ofNat_toNat]

theorem decodePassing_ascii {text : List Char} (ascii : AllAscii text) :
    decodePassing (text.map Char.toNat) = some (text.map Symbol.char) := by
  rw [decodePassing, List.length_map]
  induction text with
  | nil => rfl
  | cons c rest ih =>
      simp only [List.map_cons, List.length_cons, decodePassingFrom,
        utf8Step_ascii (ascii c List.mem_cons_self), Nat.sub_self, List.drop_zero, ih ascii.tail,
        Option.map_some]

theorem decodeLossy_ascii {text : List Char} (ascii : AllAscii text) :
    decodeLossy (text.map Char.toNat) = text := by
  rw [decodeLossy, List.length_map]
  induction text with
  | nil => rfl
  | cons c rest ih =>
      simp only [List.map_cons, List.length_cons, decodeLossyFrom,
        utf8Step_ascii (ascii c List.mem_cons_self), Nat.sub_self, List.drop_zero, ih ascii.tail]

/-! ### Escapes and parts -/

theorem unescapeBytes_plain (text : List Char) (plain : ∀ c ∈ text, c ≠ '%') :
    unescapeBytes text = text.map Char.toNat := by
  match text with
  | [] => rfl
  | [c] => rfl
  | [c, e] => rfl
  | c :: a :: b :: rest =>
      have noEscape : c ≠ '%' := plain c List.mem_cons_self
      have later := unescapeBytes_plain (a :: b :: rest)
        fun other member => plain other (List.mem_cons_of_mem c member)
      simp only [unescapeBytes, if_neg noEscape, later, List.map_cons]

theorem percentDecode_plain (text row : List Char) (ascii : AllAscii text)
    (rowAscii : AllAscii row) (plain : ∀ c ∈ text, c ≠ '%') (rowPlain : ∀ c ∈ row, c ≠ '%') :
    percentDecode row text = row.reverse ++ text := by
  induction text generalizing row with
  | nil =>
      have reversed : AllAscii row.reverse :=
        fun c member => rowAscii c (List.mem_reverse.mp member)
      rw [percentDecode, List.append_nil,
        unescapeBytes_plain row.reverse fun c member => rowPlain c (List.mem_reverse.mp member),
        decodeLossy_ascii reversed]
  | cons c rest ih =>
      rw [percentDecode, if_pos (ascii c List.mem_cons_self),
        ih (c :: row) ascii.tail
          (List.forall_mem_cons.mpr ⟨ascii c List.mem_cons_self, rowAscii⟩)
          (fun other member => plain other (List.mem_cons_of_mem c member))
          (List.forall_mem_cons.mpr ⟨plain c List.mem_cons_self, rowPlain⟩),
        List.reverse_cons, List.append_assoc, List.singleton_append]

theorem splitOn_of_not_mem {mark : Char} {text : List Char} (absent : mark ∉ text) :
    splitOn mark text = [text] := by
  induction text with
  | nil => rfl
  | cons c rest ih =>
      rw [List.mem_cons, not_or] at absent
      rw [splitOn, if_neg (Ne.symm absent.1), ih absent.2]

end SavingsSite.Text
