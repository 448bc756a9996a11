import SavingsSite.Decimal.Binary64
import SavingsSite.Text.Symbol

set_option autoImplicit false

/-! JSON values. Integers are unbounded and differ from numbers with a point or an exponent.
A record lists its fields in the order in which their names first appeared. -/

namespace SavingsSite

open Text (Symbol)

def Json.digitLimit : Nat := 4300

inductive LengthFault where
  | tooManyDigits
  deriving DecidableEq, Repr

def LengthFault.message : LengthFault → String
  | tooManyDigits =>
      "Exceeds the limit (" ++ toString Json.digitLimit ++
        " digits) for integer string conversion; " ++
        "use sys.set_int_max_str_digits() to increase the limit"

/-- The first natural number that has more digits than that. -/
@[irreducible]
def Json.firstLong : Nat := Nat.pow 10 Json.digitLimit

theorem Json.firstLong_eq : Json.firstLong = Nat.pow 10 Json.digitLimit := by
  unfold Json.firstLong
  rfl

theorem Json.lt_firstLong {n digits : Nat} (small : n < Nat.pow 10 digits)
    (few : digits ≤ Json.digitLimit) : n < Json.firstLong := by
  have ten : 0 < 10 := by decide
  rw [Json.firstLong_eq]
  generalize Json.digitLimit = most at few
  exact Nat.lt_of_lt_of_le small (Nat.pow_le_pow_right ten few)

@[irreducible]
def isWritable (n : Int) : Bool := n.natAbs < Json.firstLong

theorem isWritable_iff (n : Int) : isWritable n = true ↔ n.natAbs < Json.firstLong := by
  unfold isWritable
  exact decide_eq_true_iff

theorem isWritable_of_lt {n : Int} (small : n.natAbs < 10000000000000000000) :
    isWritable n = true := by
  have bound : n.natAbs < Nat.pow 10 19 := small
  exact (isWritable_iff n).mpr (Json.lt_firstLong bound (by decide))

theorem not_isWritable_firstLong : isWritable Json.firstLong = false := by
  apply Bool.eq_false_iff.mpr
  rw [ne_eq, isWritable_iff, Int.natAbs_natCast]
  exact Nat.lt_irrefl _

/-- A string is sound, or torn when it holds a half of a surrogate pair. -/
inductive JsonString where
  | sound (text : String)
  | torn (symbols : List Symbol)
  deriving DecidableEq, Repr

namespace JsonString

def symbols : JsonString → List Symbol
  | sound text => Text.symbols text
  | torn symbols => symbols

def ofSymbols (symbols : List Symbol) : JsonString :=
  match Text.chars? symbols with
  | some chars => sound (String.ofList chars)
  | none => torn symbols

def sound? : JsonString → Option String
  | sound text => some text
  | torn _ => none

theorem ofSymbols_symbols_sound (text : String) :
    ofSymbols (sound text).symbols = sound text := by
  simp [ofSymbols, symbols, Text.symbols, Text.chars?_map_char]

end JsonString

inductive Json where
  | null
  | flag (value : Bool)
  | whole (value : Int)
  | real (value : Binary64)
  | text (value : JsonString)
  | list (items : List Json)
  | record (fields : List (JsonString × Json))
  deriving Repr

namespace Json

abbrev Fields := List (JsonString × Json)

def ofString (text : String) : Json := .text (.sound text)

def ofStrings (texts : List String) : Json := .list (texts.map ofString)

def ofFields (fields : List (String × Json)) : Json :=
  .record (fields.map fun (name, value) => (.sound name, value))

def ofOption {α : Type} (write : α → Json) : Option α → Json
  | none => null
  | some a => write a

def ofNat (n : Nat) : Json := .whole n

def sortName : Json → String
  | null => "NoneType"
  | flag _ => "bool"
  | whole _ => "int"
  | real _ => "float"
  | text _ => "str"
  | list _ => "list"
  | record _ => "dict"

def isVoid : Json → Bool
  | null => true
  | flag value => !value
  | whole value => value = 0
  | real (.finite _ mantissa _) => mantissa = 0
  | real _ => false
  | text (.sound value) => value = ""
  | text (.torn _) => false
  | list items => items.isEmpty
  | record fields => fields.isEmpty

/-- The fields with `value` under `name`: in its old place when the name is there, else last. -/
def Fields.put (name : JsonString) (value : Json) : Fields → Fields
  | [] => [(name, value)]
  | (other, old) :: rest =>
      if other = name then (name, value) :: rest else (other, old) :: Fields.put name value rest

def Fields.putAll (fields newer : Fields) : Fields :=
  newer.foldl (fun all field => Fields.put field.1 field.2 all) fields

def Fields.get? (name : String) : Fields → Option Json
  | [] => none
  | (other, value) :: rest =>
      if other = .sound name then some value else Fields.get? name rest

def field? (name : String) : Json → Option Json
  | record fields => Fields.get? name fields
  | _ => none

theorem Fields.get?_put (name : String) (value : Json) (fields : Fields) :
    Fields.get? name (Fields.put (.sound name) value fields) = some value := by
  induction fields with
  | nil => simp [Fields.put, Fields.get?]
  | cons head rest ih =>
      obtain ⟨other, old⟩ := head
      by_cases same : other = .sound name
      · simp [Fields.put, Fields.get?, same]
      · simp [Fields.put, Fields.get?, same, ih]

theorem Fields.get?_put_of_ne {name : String} {other : JsonString} (differs : other ≠ .sound name)
    (value : Json) (fields : Fields) :
    Fields.get? name (Fields.put other value fields) = Fields.get? name fields := by
  induction fields with
  | nil => simp only [Fields.put, Fields.get?, if_neg differs]
  | cons head rest ih =>
      obtain ⟨first, old⟩ := head
      by_cases same : first = other
      · subst same
        simp only [Fields.put, if_true, Fields.get?, if_neg differs]
      · simp only [Fields.put, if_neg same, Fields.get?, ih]

theorem Fields.get?_append (name : String) (first rest : Fields) :
    Fields.get? name (first ++ rest) = (Fields.get? name first).or (Fields.get? name rest) := by
  induction first with
  | nil => rfl
  | cons head more ih =>
      obtain ⟨other, value⟩ := head
      by_cases same : other = .sound name
      · simp only [List.cons_append, Fields.get?, if_pos same, Option.some_or]
      · simp only [List.cons_append, Fields.get?, if_neg same, ih]

theorem Fields.get?_putAll (name : String) (fields newer : Fields) :
    Fields.get? name (fields.putAll newer) =
      (Fields.get? name newer.reverse).or (Fields.get? name fields) := by
  induction newer generalizing fields with
  | nil => rfl
  | cons head more ih =>
      obtain ⟨other, value⟩ := head
      have later := ih (Fields.put other value fields)
      rw [List.reverse_cons, Fields.get?_append, Option.or_assoc]
      refine later.trans (congrArg _ ?_)
      by_cases same : other = .sound name
      · rw [same, Fields.get?_put]
        simp only [Fields.get?, if_true, Option.some_or]
      · rw [Fields.get?_put_of_ne same]
        simp only [Fields.get?, if_neg same, Option.none_or]

end Json

end SavingsSite
