import SavingsSite.Json.Document
import SavingsSite.Proofs.Json.RoundTrip
import SavingsSite.Proofs.Json.Sending

set_option autoImplicit false

/-! Documents that are written. The compact text of a value with sound strings is what is printed of
it, and a readable value is read back from its compact text. -/

namespace SavingsSite.Json

open Text (Symbol)

theorem symbols_ofList_of_whole (symbols : List Symbol)
    (whole : symbols.any Symbol.isHalf = false) :
    Text.symbols (String.ofList (symbols.map fun s => s.toChar?.getD '\uFFFD')) = symbols := by
  rw [Text.symbols, String.toList_ofList]
  induction symbols with
  | nil => rfl
  | cons s rest ih =>
      rw [List.any_cons, Bool.or_eq_false_iff] at whole
      cases s with
      | half unit => cases whole.1
      | char c =>
          rw [List.map_cons, List.map_cons, ih whole.2]
          rfl

theorem symbols_compact {value : Json} (whole : value.hasHalf = false) :
    Text.symbols value.compact = value.print :=
  symbols_ofList_of_whole value.print whole

mutual

theorem Readable.not_hasHalf {d : Dialect} {level : Nat} (value : Json)
    (readable : Readable d level value) : hasHalf value = false := by
  cases value with
  | null => exact (hasHalf_of_leaf fun _ => rfl).2
  | flag _ => exact (hasHalf_of_leaf fun _ => rfl).2
  | whole _ => exact (hasHalf_of_leaf fun _ => rfl).2
  | real _ => exact (hasHalf_of_leaf fun _ => rfl).2
  | text _ =>
      rw [Readable] at readable
      rw [hasHalf_text, not_isHalf_of_sound readable.2]
  | list items =>
      rw [Readable] at readable
      rw [hasHalf_list]
      exact ItemsReadable.not_hasHalf items readable.2
  | record fields =>
      rw [Readable] at readable
      rw [hasHalf_record]
      exact FieldsReadable.not_hasHalf fields readable.2.2

theorem ItemsReadable.not_hasHalf {d : Dialect} {level : Nat} (items : List Json)
    (readable : ItemsReadable d level items) : items.any hasHalf = false := by
  cases items with
  | nil => rfl
  | cons value more =>
      rw [ItemsReadable] at readable
      rw [List.any_cons, Readable.not_hasHalf value readable.1,
        ItemsReadable.not_hasHalf more readable.2, Bool.or_self]

theorem FieldsReadable.not_hasHalf {d : Dialect} {level : Nat}
    (fields : List (JsonString × Json)) (readable : FieldsReadable d level fields) :
    fields.any (fun field => field.1.symbols.any Symbol.isHalf || field.2.hasHalf) = false := by
  cases fields with
  | nil => rfl
  | cons field more =>
      obtain ⟨name, value⟩ := field
      rw [FieldsReadable] at readable
      rw [List.any_cons, not_isHalf_of_sound readable.1, Readable.not_hasHalf value readable.2.1,
        FieldsReadable.not_hasHalf more readable.2.2, Bool.or_self, Bool.or_self]

end

theorem Document.read_compact {value : Json} (readable : Readable Document.dialect 0 value) :
    Document.read value.compact = .ok value := by
  rw [Document.read, symbols_compact (Readable.not_hasHalf value readable),
    scan_print value readable]

/-! ### Short integers -/

mutual

/-- No integer in a value has more than so many digits. -/
def IntegersWithin (digits : Nat) : Json → Prop
  | whole n => (Nat.toDigits 10 n.natAbs).length ≤ digits
  | list items => ItemsWithin digits items
  | record fields => FieldsWithin digits fields
  | _ => True

def ItemsWithin (digits : Nat) : List Json → Prop
  | [] => True
  | value :: more => IntegersWithin digits value ∧ ItemsWithin digits more

def FieldsWithin (digits : Nat) : List (JsonString × Json) → Prop
  | [] => True
  | (_, value) :: more => IntegersWithin digits value ∧ FieldsWithin digits more

end

theorem itemsWithin_iff (digits : Nat) (items : List Json) :
    ItemsWithin digits items ↔ ∀ value ∈ items, IntegersWithin digits value := by
  induction items with
  | nil => exact iff_of_true trivial (List.forall_mem_nil _)
  | cons value more ih => rw [ItemsWithin, ih, List.forall_mem_cons]

end SavingsSite.Json
