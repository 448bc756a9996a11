import SavingsSite.Proofs.Json.Documents
import SavingsSite.Proofs.Schema.Normal

set_option autoImplicit false

/-! Serialization of records. A validated record of a sound kind is shown as it is, and it is read
back from what is shown and from the compact text of it, if the kind is not nested too deeply and the
integers of the record are not too long for a document. -/

namespace SavingsSite.Schema

open Json (Readable ItemsReadable FieldsReadable IntegersWithin FieldsWithin Dialect itemsWithin_iff)

mutual

/-- How many containers a normal value of a shape nests at most. -/
def Shape.depth : Shape → Nat
  | .nullable inner => inner.depth
  | .list _ item => item.depth + 1
  | .record _ fields => fields.depth + 1
  | _ => 0

def Fields.depth : Fields → Nat
  | .done => 0
  | .field _ shape _ rest => max shape.depth rest.depth

end

theorem itemsReadable_iff (d : Dialect) (level : Nat) (items : List Json) :
    ItemsReadable d level items ↔ ∀ value ∈ items, Readable d level value := by
  induction items with
  | nil => exact iff_of_true trivial (List.forall_mem_nil _)
  | cons value more ih => rw [ItemsReadable, ih, List.forall_mem_cons]

variable {d : Dialect}

mutual

/-- A normal value can be read from a document that leaves room for the containers of its shape. -/
theorem Shape.readable_of_normal (shape : Shape) (sound : shape.Sound) {value : Json}
    (normal : shape.Normal value) (short : IntegersWithin d.digits value) {level : Nat}
    (room : level + shape.depth ≤ d.depth) : Readable d level value := by
  match shape, normal with
  | .text rule, .text _ =>
      rw [Json.ofString, Readable]
      exact ⟨room, rfl⟩
  | .integer least greatest, .integer _ =>
      rw [IntegersWithin] at short
      rw [Readable]
      exact ⟨room, short⟩
  | .flag, .flag _ =>
      rw [Readable]
      exact room
  | .oneOf options, .oneOf _ =>
      rw [Json.ofString, Readable]
      exact ⟨room, rfl⟩
  | .nullable inner, .absent _ =>
      rw [Readable]
      exact Nat.le_trans (Nat.le_add_right _ _) room
  | .nullable inner, .present normal =>
      rw [Shape.Sound] at sound
      rw [Shape.depth] at room
      exact Shape.readable_of_normal inner sound normal short room
  | .list least item, .list _ each =>
      rw [Shape.Sound] at sound
      rw [Shape.depth] at room
      rw [IntegersWithin, itemsWithin_iff] at short
      rw [Readable, itemsReadable_iff]
      refine ⟨by omega, fun value member => ?_⟩
      exact Shape.readable_of_normal item sound (each value member) (short value member)
        (by omega)
  | .record title fields, .record normal =>
      rw [Shape.Sound] at sound
      rw [Shape.depth] at room
      rw [IntegersWithin] at short
      rw [Readable]
      refine ⟨by omega, normal.distinct sound.1, ?_⟩
      exact Fields.readable_of_normal fields sound.2 normal short (by omega)

theorem Fields.readable_of_normal (fields : Fields) (sound : fields.Sound) {values : Json.Fields}
    (normal : fields.Normal values) (short : FieldsWithin d.digits values) {level : Nat}
    (room : level + fields.depth ≤ d.depth) : FieldsReadable d level values := by
  match fields, normal with
  | .done, .done => exact trivial
  | .field name shape default rest, .field own others =>
      rw [Fields.Sound] at sound
      rw [Fields.depth] at room
      rw [FieldsWithin] at short
      rw [FieldsReadable]
      have ownRoom := Nat.le_max_left shape.depth rest.depth
      have restRoom := Nat.le_max_right shape.depth rest.depth
      exact ⟨rfl, Shape.readable_of_normal shape sound.1 own short.1 (by omega),
        Fields.readable_of_normal rest sound.2.2 others short.2 (by omega)⟩

end

/-! ### Kinds of records -/

namespace RecordKind

/-- A value that validation gives, of data or of a document. -/
inductive Validated (kind : RecordKind) (value : Json) : Prop
  | data (input : Json) (read : kind.ofData input = .ok value)
  | document (text : String) (read : kind.ofDocument text = .ok value)

/-- Names are distinct, defaults pass their own checks, and a document has room for the records. No
field has a name under which an object looks up how it is shown. -/
structure Storable (kind : RecordKind) : Prop where
  sound : kind.shape.Sound
  shallow : kind.shape.depth ≤ Json.Document.dialect.depth
  plain : ∀ name ∈ showingNames, name ∉ kind.fields.names

variable {kind : RecordKind} {value : Json}

theorem Validated.normal (validated : kind.Validated value) (storable : kind.Storable) :
    kind.shape.Normal value := by
  cases validated with
  | data input read => exact kind.shape.normal_of_read storable.sound read
  | document text read =>
      rw [ofDocument] at read
      split at read
      · cases read
      · exact kind.shape.normal_of_read storable.sound read

theorem ofData_normal (storable : kind.Storable) (normal : kind.shape.Normal value) :
    kind.ofData value = .ok value :=
  kind.shape.read_normal .data storable.sound normal

theorem ofDocument_compact (storable : kind.Storable) (normal : kind.shape.Normal value)
    (short : IntegersWithin Json.digitLimit value) : kind.ofDocument value.compact = .ok value := by
  have room : 0 + kind.shape.depth ≤ Json.Document.dialect.depth := by
    rw [Nat.zero_add]
    exact storable.shallow
  have readable : Readable Json.Document.dialect 0 value :=
    kind.shape.readable_of_normal storable.sound normal short room
  rw [ofDocument, Json.Document.read_compact readable]
  exact kind.shape.read_normal .document storable.sound normal

theorem shown_of_normal (storable : kind.Storable) (normal : kind.shape.Normal value) :
    kind.shown (.ofRecord value) = .ok value := by
  rw [shape] at normal
  cases normal with
  | record normal => exact kind.shown_normal storable.plain normal

end RecordKind

end SavingsSite.Schema
