import SavingsSite.Content.Shapes
import SavingsSite.Proofs.Schema.Serialization

set_option autoImplicit false

/-! The records of the content survive serialization: each is read back from its dump and from the
compact text of the dump. -/

namespace SavingsSite.Content

open Schema

theorem names_distinct : ∀ kind ∈ recordKinds, kind.fields.names.Nodup := by decide

theorem depth_le : ∀ kind ∈ recordKinds, kind.shape.depth ≤ Json.Document.dialect.depth := by
  decide

theorem names_plain :
    ∀ kind ∈ recordKinds, ∀ name ∈ RecordKind.showingNames, name ∉ kind.fields.names := by
  decide

theorem sound_shape_iff {kind : RecordKind} (member : kind ∈ recordKinds) :
    kind.shape.Sound ↔ kind.fields.Sound := by
  rw [RecordKind.shape, Shape.Sound, and_iff_right (names_distinct kind member)]

theorem sound_required_iff (name : String) (shape : Shape) (rest : Fields) :
    (required name shape rest).Sound ↔ shape.Sound ∧ rest.Sound := by
  rw [required, Fields.Sound]
  exact ⟨fun sound => ⟨sound.1, sound.2.2⟩, fun sound => ⟨sound.1, nofun, sound.2⟩⟩

theorem sound_optional_iff (name : String) (shape : Shape) (default : Json) (rest : Fields) :
    (optional name shape default rest).Sound ↔
      shape.Sound ∧ shape.Normal default ∧ rest.Sound := by
  rw [optional, Fields.Sound]
  simp only [Option.mem_some_iff, forall_eq']

theorem sound_of_mem : ∀ kind ∈ recordKinds, kind.shape.Sound := by
  obtain ⟨text, someText, integer, index⟩ :
      anyText.Sound ∧ nonEmptyText.Sound ∧ anyInteger.Sound ∧ position.Sound := by
    simp only [anyText, nonEmptyText, anyInteger, position, Shape.Sound, and_self]
  have null (inner : Shape) : (Shape.nullable inner).Normal .null := .absent inner
  have no : Shape.flag.Normal (.flag false) := .flag false
  have sound {kind : RecordKind} (member : kind ∈ recordKinds) (fields : kind.fields.Sound) :
      kind.shape.Sound := (sound_shape_iff member).mpr fields
  have item : faqItemKind.shape.Sound := by
    refine sound (by simp [recordKinds]) ?_
    simp only [faqItemKind, sound_required_iff, someText, Fields.Sound, and_self]
  have list : faqListKind.shape.Sound := by
    refine sound (by simp [recordKinds]) ?_
    simp only [faqListKind, sound_required_iff, text, item, Shape.Sound, Fields.Sound, and_self]
  have view : itemViewKind.shape.Sound := by
    refine sound (by simp [recordKinds]) ?_
    simp only [itemViewKind, sound_required_iff, text, index, integer, Shape.Sound, Fields.Sound,
      and_self]
  have accordion : accordionViewKind.shape.Sound := by
    refine sound (by simp [recordKinds]) ?_
    simp only [accordionViewKind, sound_required_iff, sound_optional_iff, null, no, integer, view,
      Shape.Sound, Fields.Sound, and_self]
  have toggle : toggleRequestKind.shape.Sound := by
    refine sound (by simp [recordKinds]) ?_
    simp only [toggleRequestKind, sound_required_iff, sound_optional_iff, null, index, Shape.Sound,
      Fields.Sound, and_self]
  have action : callToActionKind.shape.Sound := by
    refine sound (by simp [recordKinds]) ?_
    simp only [callToActionKind, sound_required_iff, someText, Fields.Sound, and_self]
  have stat : heroStatKind.shape.Sound := by
    refine sound (by simp [recordKinds]) ?_
    simp only [heroStatKind, sound_required_iff, text, Fields.Sound, and_self]
  have hero : heroContentKind.shape.Sound := by
    refine sound (by simp [recordKinds]) ?_
    simp only [heroContentKind, sound_required_iff, sound_optional_iff, null, text, action, stat,
      Shape.Sound, Fields.Sound, and_self]
  simp only [recordKinds, List.forall_mem_cons]
  exact ⟨item, list, view, accordion, toggle, action, stat, hero, List.forall_mem_nil _⟩

theorem storable_of_mem {kind : RecordKind} (member : kind ∈ recordKinds) : kind.Storable where
  sound := sound_of_mem kind member
  shallow := depth_le kind member
  plain := names_plain kind member

end SavingsSite.Content
