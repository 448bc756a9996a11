import SavingsSite.Json.Printer

set_option autoImplicit false

/-! Values that can be sent: their numbers are finite, their integers have few enough digits, and no
symbol of their text is a half of a pair. Values whose strings are all sound are among them. -/

namespace SavingsSite.Json

open Text (Symbol)

mutual

/-- Whether all strings of a value are sound, all numbers finite and all integers writable. -/
def isSound : Json → Bool
  | whole n => isWritable n
  | real (.finite _ _ _) => true
  | real _ => false
  | text value => value.sound?.isSome
  | list items => itemsSound items
  | record fields => fieldsSound fields
  | _ => true

def itemsSound : List Json → Bool
  | [] => true
  | value :: more => isSound value && itemsSound more

def fieldsSound : List (JsonString × Json) → Bool
  | [] => true
  | (name, value) :: more => name.sound?.isSome && isSound value && fieldsSound more

end

theorem itemsSound_map {α : Type} (make : α → Json) (values : List α)
    (sound : ∀ a ∈ values, isSound (make a) = true) : itemsSound (values.map make) = true := by
  induction values with
  | nil => rfl
  | cons a more ih =>
      rw [List.map_cons, itemsSound, sound a List.mem_cons_self,
        ih fun b member => sound b (List.mem_cons_of_mem a member), Bool.and_self]

/-! ### Numbers without a text -/

theorem numberFault?_whole_eq_none_iff (n : Int) :
    numberFault? (whole n) = none ↔ isWritable n = true := by
  rw [numberFault?]
  split <;> simp only [*, reduceCtorEq]

theorem itemsFault?_eq_none_iff (items : List Json) :
    itemsFault? items = none ↔ ∀ value ∈ items, value.numberFault? = none := by
  induction items with
  | nil => exact iff_of_true rfl (List.forall_mem_nil _)
  | cons value more ih => rw [itemsFault?, Option.or_eq_none_iff, ih, List.forall_mem_cons]

theorem fieldsFault?_eq_none_iff (fields : List (JsonString × Json)) :
    fieldsFault? fields = none ↔ ∀ field ∈ fields, field.2.numberFault? = none := by
  induction fields with
  | nil => exact iff_of_true rfl (List.forall_mem_nil _)
  | cons field more ih => rw [fieldsFault?, Option.or_eq_none_iff, ih, List.forall_mem_cons]

mutual

theorem numberFault?_of_sound (value : Json) (sound : isSound value = true) :
    numberFault? value = none := by
  cases value with
  | null => rfl
  | flag _ => rfl
  | whole n =>
      rw [isSound] at sound
      exact (numberFault?_whole_eq_none_iff n).mpr sound
  | text _ => rfl
  | real x =>
      cases x with
      | finite _ _ _ => rfl
      | infinite _ => cases sound
      | undefined => cases sound
  | list items =>
      rw [isSound] at sound
      rw [numberFault?]
      exact itemsFault?_of_sound items sound
  | record fields =>
      rw [isSound] at sound
      rw [numberFault?]
      exact fieldsFault?_of_sound fields sound

theorem itemsFault?_of_sound (items : List Json) (sound : itemsSound items = true) :
    itemsFault? items = none := by
  cases items with
  | nil => rfl
  | cons value more =>
      rw [itemsSound, Bool.and_eq_true] at sound
      rw [itemsFault?, numberFault?_of_sound value sound.1, itemsFault?_of_sound more sound.2,
        Option.or_none]

theorem fieldsFault?_of_sound (fields : List (JsonString × Json))
    (sound : fieldsSound fields = true) : fieldsFault? fields = none := by
  cases fields with
  | nil => rfl
  | cons field more =>
      obtain ⟨name, value⟩ := field
      rw [fieldsSound, Bool.and_eq_true, Bool.and_eq_true] at sound
      rw [fieldsFault?, numberFault?_of_sound value sound.1.2,
        fieldsFault?_of_sound more sound.2, Option.or_none]

end

/-! ### Halves in the text of a value -/

/-- Whether the text of a value has a half of a pair in it. -/
def hasHalf (value : Json) : Bool := value.print.any Symbol.isHalf

theorem any_before (shown : List Char) (rest : List Symbol) :
    (before shown rest).any Symbol.isHalf = rest.any Symbol.isHalf := by
  induction shown with
  | nil => rfl
  | cons c more ih => exact ih

theorem any_symbolBefore (s : Symbol) (rest : List Symbol) :
    (symbolBefore s rest).any Symbol.isHalf = (s.isHalf || rest.any Symbol.isHalf) := by
  cases s with
  | half unit => rfl
  | char c =>
      rw [symbolBefore]
      split
      · exact any_before _ rest
      · rfl

theorem any_stringBefore (s : JsonString) (rest : List Symbol) :
    (stringBefore s rest).any Symbol.isHalf =
      (s.symbols.any Symbol.isHalf || rest.any Symbol.isHalf) := by
  rw [stringBefore, List.any_cons]
  induction s.symbols with
  | nil => rfl
  | cons first more ih =>
      rw [List.foldr_cons, any_symbolBefore, List.any_cons, Bool.or_assoc, ← ih, Bool.or_left_comm]

/-- A value adds its own halves to those of what follows it. -/
def AddsItsHalves (value : Json) : Prop := ∀ rest,
  (printBefore rest value).any Symbol.isHalf = (value.hasHalf || rest.any Symbol.isHalf)

theorem any_printItems {items : List Json} (each : ∀ value ∈ items, AddsItsHalves value)
    (rest : List Symbol) (first : Bool) :
    (printItems rest first items).any Symbol.isHalf =
      (items.any hasHalf || rest.any Symbol.isHalf) := by
  induction items generalizing first with
  | nil => rfl
  | cons value more ih =>
      rw [List.forall_mem_cons] at each
      have own : (printBefore (printItems rest false more) value).any Symbol.isHalf =
          ((value :: more).any hasHalf || rest.any Symbol.isHalf) := by
        rw [each.1, ih each.2 false, List.any_cons, Bool.or_assoc]
      cases first with
      | true => exact own
      | false => exact own

theorem any_printFields {fields : List (JsonString × Json)}
    (each : ∀ field ∈ fields, AddsItsHalves field.2) (rest : List Symbol) (first : Bool) :
    (printFields rest first fields).any Symbol.isHalf =
      (fields.any (fun field => field.1.symbols.any Symbol.isHalf || field.2.hasHalf) ||
        rest.any Symbol.isHalf) := by
  induction fields generalizing first with
  | nil => rfl
  | cons field more ih =>
      rw [List.forall_mem_cons] at each
      have own : (stringBefore field.1 (.char ':' ::
            printBefore (printFields rest false more) field.2)).any Symbol.isHalf =
          ((field :: more).any (fun field => field.1.symbols.any Symbol.isHalf || field.2.hasHalf) ||
            rest.any Symbol.isHalf) := by
        rw [any_stringBefore, List.any_cons, each.1, ih each.2 false, List.any_cons]
        simp only [Symbol.isHalf, Bool.false_or, Bool.or_assoc]
      cases first with
      | true => exact own
      | false => exact own

theorem hasHalf_of_leaf {value : Json} {shown : List Char}
    (printed : ∀ rest, printBefore rest value = before shown rest) :
    AddsItsHalves value ∧ value.hasHalf = false := by
  have none : value.hasHalf = false := by
    rw [hasHalf, print, printed, any_before]
    rfl
  refine ⟨fun rest => ?_, none⟩
  rw [printed, any_before, none, Bool.false_or]

theorem addsItsHalves (value : Json) : AddsItsHalves value := by
  cases value with
  | null => exact (hasHalf_of_leaf fun _ => rfl).1
  | flag _ => exact (hasHalf_of_leaf fun _ => rfl).1
  | whole _ => exact (hasHalf_of_leaf fun _ => rfl).1
  | real _ => exact (hasHalf_of_leaf fun _ => rfl).1
  | text s =>
      intro rest
      rw [hasHalf, print, printBefore, printBefore, any_stringBefore, any_stringBefore,
        List.any_nil, Bool.or_false]
  | list items =>
      have each : ∀ value ∈ items, AddsItsHalves value := fun value _member => addsItsHalves value
      intro rest
      rw [hasHalf, print, printBefore, printBefore, List.any_cons, List.any_cons,
        any_printItems each, any_printItems each, List.any_cons, List.any_cons, List.any_nil]
      simp only [Symbol.isHalf, Bool.false_or, Bool.or_false]
  | record fields =>
      have each : ∀ field ∈ fields, AddsItsHalves field.2 := by
        rintro ⟨name, value⟩ member
        have smaller : sizeOf value < sizeOf fields := by
          have inside := List.sizeOf_lt_of_mem member
          rw [Prod.mk.sizeOf_spec] at inside
          omega
        exact addsItsHalves value
      intro rest
      rw [hasHalf, print, printBefore, printBefore, List.any_cons, List.any_cons,
        any_printFields each, any_printFields each, List.any_cons, List.any_cons, List.any_nil]
      simp only [Symbol.isHalf, Bool.false_or, Bool.or_false]

theorem hasHalf_text (s : JsonString) : hasHalf (text s) = s.symbols.any Symbol.isHalf := by
  rw [hasHalf, print, printBefore, any_stringBefore, List.any_nil, Bool.or_false]

theorem not_isHalf_of_sound {s : JsonString} (sound : s.sound?.isSome = true) :
    s.symbols.any Symbol.isHalf = false := by
  cases s with
  | torn symbols => cases sound
  | sound text =>
      rw [JsonString.symbols, Text.symbols, List.any_map]
      exact List.any_eq_false.mpr fun c _member => Bool.false_ne_true

theorem hasHalf_list (items : List Json) : hasHalf (list items) = items.any hasHalf := by
  rw [hasHalf, print, printBefore, List.any_cons,
    any_printItems fun value _member => addsItsHalves value, List.any_cons, List.any_nil]
  simp only [Symbol.isHalf, Bool.false_or, Bool.or_false]

theorem hasHalf_record (fields : List (JsonString × Json)) :
    hasHalf (record fields) =
      fields.any fun field => field.1.symbols.any Symbol.isHalf || field.2.hasHalf := by
  rw [hasHalf, print, printBefore, List.any_cons,
    any_printFields fun field _member => addsItsHalves field.2, List.any_cons, List.any_nil]
  simp only [Symbol.isHalf, Bool.false_or, Bool.or_false]

mutual

theorem not_hasHalf_of_sound (value : Json) (sound : isSound value = true) :
    hasHalf value = false := by
  cases value with
  | null => exact (hasHalf_of_leaf fun _ => rfl).2
  | flag _ => exact (hasHalf_of_leaf fun _ => rfl).2
  | whole _ => exact (hasHalf_of_leaf fun _ => rfl).2
  | real _ => exact (hasHalf_of_leaf fun _ => rfl).2
  | text s =>
      rw [isSound] at sound
      rw [hasHalf_text, not_isHalf_of_sound sound]
  | list items =>
      rw [isSound] at sound
      rw [hasHalf_list]
      exact not_itemsHaveHalf_of_sound items sound
  | record fields =>
      rw [isSound] at sound
      rw [hasHalf_record]
      exact not_fieldsHaveHalf_of_sound fields sound

theorem not_itemsHaveHalf_of_sound (items : List Json) (sound : itemsSound items = true) :
    items.any hasHalf = false := by
  cases items with
  | nil => rfl
  | cons value more =>
      rw [itemsSound, Bool.and_eq_true] at sound
      rw [List.any_cons, not_hasHalf_of_sound value sound.1,
        not_itemsHaveHalf_of_sound more sound.2, Bool.or_self]

theorem not_fieldsHaveHalf_of_sound (fields : List (JsonString × Json))
    (sound : fieldsSound fields = true) :
    fields.any (fun field => field.1.symbols.any Symbol.isHalf || field.2.hasHalf) = false := by
  cases fields with
  | nil => rfl
  | cons field more =>
      obtain ⟨name, value⟩ := field
      rw [fieldsSound, Bool.and_eq_true, Bool.and_eq_true] at sound
      rw [List.any_cons, not_isHalf_of_sound sound.1.1, not_hasHalf_of_sound value sound.1.2,
        not_fieldsHaveHalf_of_sound more sound.2, Bool.or_self, Bool.or_self]

end

/-! ### Values that can be sent -/

/-- Whether the text of a value can be sent: all its numbers have one, and it has no halves. -/
def isSendable (value : Json) : Bool := value.numberFault?.isNone && !value.hasHalf

theorem isSendable_iff (value : Json) :
    value.isSendable = true ↔ value.numberFault? = none ∧ value.hasHalf = false := by
  rw [isSendable, Bool.and_eq_true, Option.isNone_iff_eq_none, Bool.not_eq_true']

theorem isSendable_of_sound {value : Json} (sound : value.isSound = true) :
    value.isSendable = true :=
  value.isSendable_iff.mpr ⟨numberFault?_of_sound value sound, not_hasHalf_of_sound value sound⟩

theorem isSendable_whole_iff (n : Int) : (whole n).isSendable = true ↔ isWritable n = true := by
  rw [isSendable_iff, numberFault?_whole_eq_none_iff]
  exact and_iff_left (hasHalf_of_leaf fun _ => rfl).2

theorem isSendable_of_isVoid {value : Json} (void : value.isVoid = true) :
    value.isSendable = true := by
  cases value with
  | null => exact isSendable_of_sound rfl
  | flag value => exact isSendable_of_sound rfl
  | whole n =>
      rw [isVoid, decide_eq_true_eq] at void
      rw [void]
      exact isSendable_of_sound (by decide +kernel)
  | real number =>
      cases number with
      | finite negative mantissa exponent => exact isSendable_of_sound rfl
      | _ => cases void
  | text value =>
      cases value with
      | sound text => exact isSendable_of_sound rfl
      | torn _ => cases void
  | list items =>
      rw [isVoid, List.isEmpty_iff] at void
      rw [void]
      exact isSendable_of_sound rfl
  | record fields =>
      rw [isVoid, List.isEmpty_iff] at void
      rw [void]
      exact isSendable_of_sound rfl

theorem isSendable_list_iff (items : List Json) :
    (list items).isSendable = true ↔ ∀ value ∈ items, value.isSendable = true := by
  simp only [isSendable_iff, numberFault?, itemsFault?_eq_none_iff, hasHalf_list,
    List.any_eq_false, Bool.not_eq_true, ← forall_and]

theorem isSendable_ofFields_iff (fields : List (String × Json)) :
    (ofFields fields).isSendable = true ↔ ∀ field ∈ fields, field.2.isSendable = true := by
  have names (name : String) : (JsonString.sound name).symbols.any Symbol.isHalf = false :=
    not_isHalf_of_sound rfl
  simp only [ofFields, isSendable_iff, numberFault?, fieldsFault?_eq_none_iff, hasHalf_record,
    List.forall_mem_map, List.any_map, List.any_eq_false, Function.comp_apply, names,
    Bool.false_or, Bool.not_eq_true, ← forall_and]

end SavingsSite.Json
