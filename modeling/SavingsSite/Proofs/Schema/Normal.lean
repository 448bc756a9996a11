import SavingsSite.Proofs.Schema.Fields
import SavingsSite.Schema.Object

set_option autoImplicit false

/-! Values in normal form. What a shape reads is a normal value of the shape, and a normal value is
read as it is, so reading twice is reading once. An object shows a normal record as it is. -/

namespace SavingsSite.Schema

mutual

inductive Shape.Normal : Shape → Json → Prop
  | text {rule : TextRule} {value : String} (admitted : rule.issue? value = none) :
      Shape.Normal (.text rule) (Json.ofString value)
  | integer {least greatest : Option Int} {n : Int}
      (inside : boundIssue? least greatest n = none) :
      Shape.Normal (.integer least greatest) (.whole n)
  | flag (answer : Bool) : Shape.Normal .flag (.flag answer)
  | oneOf {options : List String} {value : String} (listed : value ∈ options) :
      Shape.Normal (.oneOf options) (Json.ofString value)
  | absent (inner : Shape) : Shape.Normal (.nullable inner) .null
  | present {inner : Shape} {value : Json} (normal : Shape.Normal inner value) :
      Shape.Normal (.nullable inner) value
  | list {least : Nat} {item : Shape} {items : List Json} (enough : least ≤ items.length)
      (each : ∀ value ∈ items, Shape.Normal item value) :
      Shape.Normal (.list least item) (.list items)
  | record {title : String} {fields : Fields} {values : Json.Fields}
      (normal : Fields.Normal fields values) : Shape.Normal (.record title fields) (.record values)

/-- A normal value for every field, in the order of the fields. -/
inductive Fields.Normal : Fields → Json.Fields → Prop
  | done : Fields.Normal .done []
  | field {name : String} {shape : Shape} {default : Option Json} {rest : Fields} {value : Json}
      {values : Json.Fields} (own : Shape.Normal shape value) (others : Fields.Normal rest values) :
      Fields.Normal (.field name shape default rest) ((.sound name, value) :: values)

end

mutual

/-- The names in each record are distinct, and each default is a normal value of its field. -/
def Shape.Sound : Shape → Prop
  | .nullable inner => inner.Sound
  | .list _ item => item.Sound
  | .record _ fields => fields.names.Nodup ∧ fields.Sound
  | _ => True

def Fields.Sound : Fields → Prop
  | .done => True
  | .field _ shape default rest =>
      shape.Sound ∧ (∀ value ∈ default, shape.Normal value) ∧ rest.Sound

end

theorem mapError_eq_ok_iff {ε ε' α : Type} {f : ε → ε'} {result : Except ε α} {a : α} :
    result.mapError f = .ok a ↔ result = .ok a := by
  cases result <;> simp only [Except.mapError, Except.ok.injEq, reduceCtorEq]

theorem readItems_cons_eq_ok_iff (read : Json → Except (List Issue) Json) (position : Nat)
    (value : Json) (rest items : List Json) :
    readItems read position (value :: rest) = .ok items ↔
      ∃ item more, read value = .ok item ∧ readItems read (position + 1) rest = .ok more ∧
        item :: more = items := by
  rw [readItems, map_eq_ok_iff]
  constructor
  · rintro ⟨⟨item, more⟩, pair, same⟩
    obtain ⟨first, later⟩ := both_eq_ok_iff.mp pair
    exact ⟨item, more, mapError_eq_ok_iff.mp first, later, same⟩
  · rintro ⟨item, more, first, later, same⟩
    exact ⟨(item, more), both_eq_ok_iff.mpr ⟨mapError_eq_ok_iff.mpr first, later⟩, same⟩

theorem exists_of_mem_readItems {read : Json → Except (List Issue) Json} {position : Nat}
    {values items : List Json} (made : readItems read position values = .ok items) :
    ∀ item ∈ items, ∃ value, read value = .ok item := by
  induction values generalizing position items with
  | nil =>
      cases made
      exact List.forall_mem_nil _
  | cons value rest ih =>
      obtain ⟨item, more, first, later, rfl⟩ := (readItems_cons_eq_ok_iff _ _ _ _ _).mp made
      exact List.forall_mem_cons.mpr ⟨⟨value, first⟩, ih later⟩

theorem readItems_self {read : Json → Except (List Issue) Json} (position : Nat)
    {items : List Json} (each : ∀ item ∈ items, read item = .ok item) :
    readItems read position items = .ok items := by
  induction items generalizing position with
  | nil => rfl
  | cons item rest ih =>
      rw [List.forall_mem_cons] at each
      exact (readItems_cons_eq_ok_iff _ _ _ _ _).mpr
        ⟨item, rest, each.1, ih (position + 1) each.2, rfl⟩

/-! ### What is read is normal -/

mutual

theorem Shape.normal_of_read {origin : Origin} (shape : Shape) (sound : shape.Sound)
    {input value : Json} (read : shape.read origin input = .ok value) : shape.Normal value := by
  match shape with
  | .text rule =>
      unfold Shape.read at read
      split at read
      · split at read
        · rename_i admitted
          cases read
          exact .text admitted
        · cases read
      · cases read
      · cases read
  | .integer least greatest =>
      unfold Shape.read at read
      split at read
      · cases read
      · split at read
        · rename_i inside
          cases read
          exact .integer inside
        · cases read
  | .flag =>
      unfold Shape.read at read
      split at read
      · cases read
      · cases read
        exact .flag _
  | .oneOf options =>
      unfold Shape.read at read
      split at read
      · split at read
        · rename_i listed
          cases read
          exact .oneOf (List.contains_iff_mem.mp listed)
        · cases read
      · cases read
  | .nullable inner =>
      unfold Shape.read at read
      split at read
      · cases read
        exact .absent inner
      · rw [Shape.Sound] at sound
        exact .present (Shape.normal_of_read inner sound read)
  | .list least item =>
      unfold Shape.read at read
      split at read
      · split at read
        · cases read
        · rename_i items made
          split at read
          · cases read
          · rename_i enough
            cases read
            rw [Shape.Sound] at sound
            refine .list (Nat.not_lt.mp enough) fun value member => ?_
            obtain ⟨given, own⟩ := exists_of_mem_readItems made value member
            exact Shape.normal_of_read item sound own
      · cases read
  | .record title fields =>
      unfold Shape.read at read
      split at read
      · obtain ⟨values, made, rfl⟩ := map_eq_ok_iff.mp read
        rw [Shape.Sound] at sound
        exact .record (Fields.normal_of_read fields sound.2 made)
      · cases read

theorem Fields.normal_of_read {origin : Origin} {given : Json.Fields} (fields : Fields)
    (sound : fields.Sound) {values : Json.Fields} (read : fields.read origin given = .ok values) :
    fields.Normal values := by
  match fields with
  | .done =>
      rw [Fields.read] at read
      cases read
      exact .done
  | .field name shape default rest =>
      rw [Fields.Sound] at sound
      obtain ⟨shapeSound, defaultNormal, restSound⟩ := sound
      rw [Fields.read_cons] at read
      obtain ⟨⟨value, more⟩, pair, rfl⟩ := map_eq_ok_iff.mp read
      obtain ⟨own, others⟩ := both_eq_ok_iff.mp pair
      refine .field ?_ (Fields.normal_of_read rest restSound others)
      unfold Field.read at own
      split at own
      · exact Shape.normal_of_read shape shapeSound (mapError_eq_ok_iff.mp own)
      · rename_i byDefault
        cases own
        exact defaultNormal value byDefault
      · cases own

end

/-! ### What is normal is read as it is -/

theorem Fields.Normal.map_fst {fields : Fields} {values : Json.Fields}
    (normal : fields.Normal values) : values.map Prod.fst = fields.names.map JsonString.sound := by
  match fields, normal with
  | .done, .done => rfl
  | .field name _ _ rest, .field _ others =>
      rw [List.map_cons, Fields.names, List.map_cons, Fields.Normal.map_fst others]

theorem Fields.Normal.distinct {fields : Fields} {values : Json.Fields}
    (normal : fields.Normal values) (distinct : fields.names.Nodup) :
    (values.map Prod.fst).Nodup := by
  rw [normal.map_fst]
  exact List.Pairwise.map JsonString.sound
    (fun _ _ differs same => differs (JsonString.sound.inj same)) distinct

theorem get?_of_mem {values : Json.Fields} (distinct : (values.map Prod.fst).Nodup) {name : String}
    {value : Json} (member : (.sound name, value) ∈ values) :
    Json.Fields.get? name values = some value := by
  induction values with
  | nil => cases member
  | cons first rest ih =>
      obtain ⟨other, held⟩ := first
      rw [List.map_cons, List.nodup_cons] at distinct
      rw [Json.Fields.get?]
      rcases List.mem_cons.mp member with same | later
      · cases same
        rw [if_pos rfl]
      · have differs : other ≠ .sound name := by
          rintro rfl
          exact distinct.1 (List.mem_map.mpr ⟨_, later, rfl⟩)
        rw [if_neg differs, ih distinct.2 later]

theorem get?_eq_none {values : Json.Fields} {name : String}
    (absent : .sound name ∉ values.map Prod.fst) : Json.Fields.get? name values = none := by
  induction values with
  | nil => rfl
  | cons first rest ih =>
      rw [List.map_cons, List.mem_cons, not_or] at absent
      rw [Json.Fields.get?, if_neg (Ne.symm absent.1), ih absent.2]

mutual

theorem Shape.read_normal (origin : Origin) (shape : Shape) (sound : shape.Sound) {value : Json}
    (normal : shape.Normal value) : shape.read origin value = .ok value := by
  match shape, normal with
  | .text rule, .text admitted => simp only [Shape.read, Json.ofString, admitted]
  | .integer least greatest, .integer inside => simp only [Shape.read, integerOf, inside]
  | .flag, .flag answer => rfl
  | .oneOf options, .oneOf listed =>
      simp only [Shape.read, Json.ofString, List.contains_iff_mem.mpr listed, if_true]
  | .nullable inner, .absent _ => rw [Shape.read]
  | .nullable inner, .present normal =>
      rw [Shape.Sound] at sound
      have own := Shape.read_normal origin inner sound normal
      cases value with
      | null => rw [Shape.read]
      | _ =>
          rw [Shape.read]
          · exact own
          · intro impossible
            cases impossible
  | .list least item, .list enough each =>
      rename_i items
      rw [Shape.Sound] at sound
      have own := readItems_self 0 fun value member =>
        Shape.read_normal origin item sound (each value member)
      simp only [Shape.read, own, if_neg (Nat.not_lt.mpr enough)]
  | .record title fields, .record normal =>
      rename_i values
      rw [Shape.Sound] at sound
      have own := Fields.read_normal origin values fields sound.2 normal
        fun name value member => get?_of_mem (normal.distinct sound.1) member
      simp only [Shape.read, own, Except.map]

theorem Fields.read_normal (origin : Origin) (given : Json.Fields) (fields : Fields)
    (sound : fields.Sound) {values : Json.Fields} (normal : fields.Normal values)
    (found : ∀ name value, (.sound name, value) ∈ values →
      Json.Fields.get? name given = some value) :
    fields.read origin given = .ok values := by
  match fields, normal with
  | .done, .done => rw [Fields.read]
  | .field name shape default rest, .field own others =>
      rename_i value more
      rw [Fields.Sound] at sound
      have present := found name value List.mem_cons_self
      have later := Fields.read_normal origin given rest sound.2.2 others fun other held member =>
        found other held (List.mem_cons_of_mem _ member)
      have first : Field.read origin given ⟨name, shape, default⟩ = .ok value := by
        simp only [Field.read, present, Shape.read_normal origin shape sound.1 own]
        rfl
      rw [Fields.read_cons, first, later]
      rfl

end

/-! ### Objects -/

namespace RecordKind

/-- The names under which an object looks up how it is shown. -/
def showingNames : List String := ["model_dump", "__pydantic_serializer__"]

theorem shown_normal (kind : RecordKind) {values : Json.Fields}
    (plain : ∀ name ∈ showingNames, name ∉ kind.fields.names)
    (normal : kind.fields.Normal values) :
    kind.shown (.ofRecord (.record values)) = .ok (.record values) := by
  have names := normal.map_fst
  have unheld (name : String) (member : name ∈ showingNames) :
      (RecordObject.ofRecord (.record values)).held? name = none := by
    refine get?_eq_none fun inside => plain name member ?_
    change _ ∈ values.map Prod.fst at inside
    rw [names] at inside
    obtain ⟨own, listed, same⟩ := List.mem_map.mp inside
    rw [← JsonString.sound.inj same]
    exact listed
  have everyField :
      values.filter (fun field => field.1.sound?.any kind.fields.names.contains) = values := by
    rw [List.filter_eq_self]
    rintro ⟨name, value⟩ member
    have inside : name ∈ values.map Prod.fst := List.mem_map.mpr ⟨_, member, rfl⟩
    rw [names] at inside
    obtain ⟨own, listed, rfl⟩ := List.mem_map.mp inside
    exact List.contains_iff_mem.mpr listed
  simp only [shown, unheld "model_dump" (by decide),
    unheld "__pydantic_serializer__" (by decide)]
  exact congrArg (fun fields => Except.ok (Json.record fields)) everyField

end RecordKind

end SavingsSite.Schema
