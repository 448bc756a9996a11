import SavingsSite.Http.Body
import SavingsSite.Http.Query
import SavingsSite.Proofs.Text.Ascii
import SavingsSite.Proofs.Text.Decimal

set_option autoImplicit false

/-! What a client writes into a query or a body arrives as it was written, as long as it is made of
ASCII characters and, in a query, of characters that need no escape. -/

namespace SavingsSite.Http

open Text (AllAscii isAscii)

/-- A character that stands for itself in the names and values of a query. -/
def isPlain (c : Char) : Bool := isAscii c && c ≠ '&' && c ≠ '=' && c ≠ '+' && c ≠ '%'

def AllPlain (part : List Char) : Prop := ∀ c ∈ part, isPlain c = true

instance (part : List Char) : Decidable (AllPlain part) :=
  decidable_of_iff (part.all isPlain = true) List.all_eq_true

theorem isPlain_iff (c : Char) :
    isPlain c = true ↔ isAscii c = true ∧ c ≠ '&' ∧ c ≠ '=' ∧ c ≠ '+' ∧ c ≠ '%' := by
  simp only [isPlain, Bool.and_eq_true, decide_eq_true_eq, and_assoc]

theorem AllPlain.ascii {part : List Char} (plain : AllPlain part) : AllAscii part :=
  fun c member => ((isPlain_iff c).mp (plain c member)).1

theorem isPlain_of_isDigit {c : Char} (digit : c.isDigit = true) : isPlain c = true := by
  have ne (other : Char) (notDigit : other.isDigit = false) : c ≠ other :=
    Text.ne_of_isDigit digit notDigit
  exact (isPlain_iff c).mpr
    ⟨Text.isAscii_of_isDigit digit, ne '&' rfl, ne '=' rfl, ne '+' rfl, ne '%' rfl⟩

theorem queryText_plain {part : List Char} (plain : AllPlain part) :
    queryText part = String.ofList part := by
  have noPlus : part.map (fun c => if c = '+' then ' ' else c) = part := by
    have same : ∀ c ∈ part, (if c = '+' then ' ' else c) = id c := by
      intro c member
      exact if_neg ((isPlain_iff c).mp (plain c member)).2.2.2.1
    rw [List.map_congr_left same, List.map_id]
  rw [queryText, noPlus, Text.percentDecode_plain part [] plain.ascii (List.forall_mem_nil _)
    (fun c member => ((isPlain_iff c).mp (plain c member)).2.2.2.2) (List.forall_mem_nil _)]
  rfl

theorem queryPair_plain {name value : List Char} (namePlain : AllPlain name)
    (valuePlain : AllPlain value) :
    queryPair (name ++ '=' :: value) = (String.ofList name, String.ofList value) := by
  have inName : ∀ c ∈ name, decide (c ≠ '=') = true := by
    intro c member
    exact decide_eq_true ((isPlain_iff c).mp (namePlain c member)).2.2.1
  have taken : (name ++ '=' :: value).takeWhile (· ≠ '=') = name := by
    rw [List.takeWhile_append_of_pos inName]
    simp only [ne_eq, List.takeWhile_cons, not_true_eq_false, decide_false, Bool.false_eq_true,
      if_false, List.append_nil]
  have dropped : (name ++ '=' :: value).dropWhile (· ≠ '=') = '=' :: value := by
    rw [List.dropWhile_append_of_pos inName]
    simp only [ne_eq, List.dropWhile_cons, not_true_eq_false, decide_false, Bool.false_eq_true,
      if_false]
  rw [queryPair, taken, dropped, List.tail_cons, queryText_plain namePlain,
    queryText_plain valuePlain]

theorem queryValue?_single {name value : List Char} (namePlain : AllPlain name)
    (valuePlain : AllPlain value) :
    queryValue? (String.ofList (name ++ '=' :: value)) (String.ofList name) =
      some (String.ofList value) := by
  have ascii : AllAscii (name ++ '=' :: value) := by
    intro c member
    rcases List.mem_append.mp member with inName | later
    · exact namePlain.ascii c inName
    · rcases List.mem_cons.mp later with rfl | inValue
      · rfl
      · exact valuePlain.ascii c inValue
  have onePart : '&' ∉ name ++ '=' :: value := by
    intro member
    rcases List.mem_append.mp member with inName | later
    · exact ((isPlain_iff '&').mp (namePlain '&' inName)).2.1 rfl
    · rcases List.mem_cons.mp later with impossible | inValue
      · cases impossible
      · exact ((isPlain_iff '&').mp (valuePlain '&' inValue)).2.1 rfl
  have chars : ((name ++ '=' :: value).map Char.toNat).map Char.ofNat = name ++ '=' :: value := by
    have same : ∀ c ∈ name ++ '=' :: value, (Char.ofNat ∘ Char.toNat) c = id c :=
      fun c _member => Char.ofNat_toNat c
    rw [List.map_map, List.map_congr_left same, List.map_id]
  have nonempty : (name ++ '=' :: value).isEmpty = false := by
    cases name <;> rfl
  have pairs : queryPairs (String.ofList (name ++ '=' :: value)) =
      [(String.ofList name, String.ofList value)] := by
    simp only [queryPairs, String.toList_ofList, Text.encodeUtf8_ascii ascii, chars,
      Text.splitOn_of_not_mem onePart, List.filter_cons, List.filter_nil, nonempty, Bool.not_false,
      if_true, List.map_cons, List.map_nil, queryPair_plain namePlain valuePlain]
  simp only [queryValue?, pairs, List.reverse_singleton, List.find?_cons, decide_true,
    Option.map_some]

/-! ### Bodies -/

theorem bodyValue_of_ascii {request : Request} {text : List Char} {value : Json}
    (body : request.body = Text.bytesOf text) (nonempty : text ≠ []) (ascii : AllAscii text)
    (encoding : Text.detectEncoding (text.map Char.toNat) = (.utf8, text.map Char.toNat))
    (jsonType : isJsonType ((request.header? "content-type").getD "") = true)
    (read : Json.Body.read (text.map Text.Symbol.char) = .ok value) :
    request.bodyValue = .json value := by
  have decoded : Text.decodeDetected (Text.values request.body) =
      some (text.map Text.Symbol.char) := by
    simp only [body, Text.values_bytesOf ascii, Text.decodeDetected, encoding,
      Text.decodePassing_ascii ascii]
  have present : request.body.isEmpty = false := by
    cases text with
    | nil => exact absurd rfl nonempty
    | cons c rest =>
        have bytes := Text.values_bytesOf ascii
        rw [← body] at bytes
        cases given : request.body with
        | nil =>
            rw [given] at bytes
            cases bytes
        | cons b more => rfl
  simp only [Request.bodyValue, present, Bool.false_eq_true, if_false, jsonType, if_true, decoded,
    read]

end SavingsSite.Http
