import Mathlib.Data.List.Forall2
import SavingsSite.Schema.Record

set_option autoImplicit false

/-! A record is read field by field: each field gives a value or its issues on its own, the record is
read exactly when all fields are, and its issues are those of its fields in their order. What else is
given beside the fields makes no difference, but for the record that a report on an absent field
shows. -/

namespace SavingsSite.Schema

section

variable {ε α β : Type}

theorem map_eq_ok_iff {f : α → β} {result : Except ε α} {b : β} :
    result.map f = .ok b ↔ ∃ a, result = .ok a ∧ f a = b := by
  cases result <;> simp only [Except.map, Except.ok.injEq, exists_eq_left', reduceCtorEq, false_and,
    exists_false]

def issuesOf : Except (List Issue) α → List Issue
  | .ok _ => []
  | .error issues => issues

theorem issuesOf_map (f : α → β) (result : Except (List Issue) α) :
    issuesOf (result.map f) = issuesOf result := by
  cases result <;> rfl

theorem both_eq_ok_iff {first : Except (List Issue) α} {second : Except (List Issue) β} {a : α}
    {b : β} : both first second = .ok (a, b) ↔ first = .ok a ∧ second = .ok b := by
  cases first <;> cases second <;>
    simp only [both, Except.ok.injEq, Prod.mk.injEq, reduceCtorEq, and_false, false_and]

theorem issuesOf_both (first : Except (List Issue) α) (second : Except (List Issue) β) :
    issuesOf (both first second) = issuesOf first ++ issuesOf second := by
  cases first <;> cases second <;>
    simp only [both, issuesOf, List.nil_append, List.append_nil]

end

structure Field where
  name : String
  shape : Shape
  default : Option Json

def Fields.toList : Fields → List Field
  | .done => []
  | .field name shape default rest => ⟨name, shape, default⟩ :: rest.toList

/-- What a field makes of the values given for a record. -/
def Field.read (origin : Origin) (given : Json.Fields) (field : Field) :
    Except (List Issue) Json :=
  match Json.Fields.get? field.name given, field.default with
  | some value, _ =>
      (field.shape.read origin value).mapError (·.map (·.under (.field field.name)))
  | none, some value => .ok value
  | none, none => .error [⟨.missing, [.field field.name], .record given⟩]

variable {origin : Origin} {given : Json.Fields}

theorem Fields.read_cons (name : String) (shape : Shape) (default : Option Json) (rest : Fields) :
    (Fields.field name shape default rest).read origin given =
      (both (Field.read origin given ⟨name, shape, default⟩) (rest.read origin given)).map
        fun (value, values) => (.sound name, value) :: values := by
  cases found : Json.Fields.get? name given with
  | some value => simp only [Fields.read, Field.read, found]
  | none => cases default <;> simp only [Fields.read, Field.read, found]

theorem Fields.read_eq_ok_iff (fields : Fields) (values : Json.Fields) :
    fields.read origin given = .ok values ↔
      List.Forall₂ (fun field pair => pair.1 = .sound field.name ∧
        field.read origin given = .ok pair.2) fields.toList values := by
  match fields with
  | .done =>
      rw [Fields.read, Fields.toList, List.forall₂_nil_left_iff, Except.ok.injEq]
      exact eq_comm
  | .field name shape default rest =>
      have later := Fields.read_eq_ok_iff rest
      rw [Fields.read_cons, Fields.toList, List.forall₂_cons_left_iff]
      constructor
      · intro read
        obtain ⟨⟨value, more⟩, pairRead, rfl⟩ := map_eq_ok_iff.mp read
        obtain ⟨own, others⟩ := both_eq_ok_iff.mp pairRead
        exact ⟨(.sound name, value), more, ⟨rfl, own⟩, (later more).mp others, rfl⟩
      · rintro ⟨⟨_, value⟩, more, ⟨rfl, own⟩, others, rfl⟩
        exact map_eq_ok_iff.mpr
          ⟨(value, more), both_eq_ok_iff.mpr ⟨own, (later more).mpr others⟩, rfl⟩

theorem Fields.issuesOf_read (fields : Fields) :
    issuesOf (fields.read origin given) =
      fields.toList.flatMap fun field => issuesOf (field.read origin given) := by
  match fields with
  | .done =>
      rw [Fields.read]
      rfl
  | .field name shape default rest =>
      rw [Fields.read_cons, issuesOf_map, issuesOf_both, Fields.issuesOf_read rest,
        Fields.toList, List.flatMap_cons]

/-! ### Readings that tell the same -/

/-- Two issues say the same in the same place. Records that lack a field need not be the same, but
they agree on some names. -/
structure Issue.Alike (names : List String) (a b : Issue) : Prop where
  kind : a.kind = b.kind
  path : a.path = b.path
  input : a.kind ≠ .missing → a.input = b.input
  shared : ∀ name ∈ names, a.input.field? name = b.input.field? name

theorem Issue.Alike.refl (names : List String) (issue : Issue) : issue.Alike names issue :=
  ⟨rfl, rfl, fun _ => rfl, fun _ _ => rfl⟩

inductive ReadAlike (names : List String) {α : Type} :
    Except (List Issue) α → Except (List Issue) α → Prop
  | ok (a : α) : ReadAlike names (.ok a) (.ok a)
  | error {issues others : List Issue} (alike : List.Forall₂ (Issue.Alike names) issues others) :
      ReadAlike names (.error issues) (.error others)

namespace ReadAlike

variable {names : List String} {α β : Type}

theorem refl (result : Except (List Issue) α) : ReadAlike names result result := by
  cases result with
  | ok a => exact .ok a
  | error issues => exact .error (List.forall₂_same.mpr fun issue _member => .refl names issue)

theorem map {result other : Except (List Issue) α} (alike : ReadAlike names result other)
    (f : α → β) : ReadAlike names (result.map f) (other.map f) := by
  cases alike with
  | ok a => exact .ok (f a)
  | error issues => exact .error issues

theorem both {first first' : Except (List Issue) α} {second second' : Except (List Issue) β}
    (firstAlike : ReadAlike names first first') (secondAlike : ReadAlike names second second') :
    ReadAlike names (both first second) (both first' second') := by
  cases firstAlike with
  | ok a =>
      cases secondAlike with
      | ok b => exact .ok (a, b)
      | error issues => exact .error issues
  | error issues =>
      cases secondAlike with
      | ok b => exact .error issues
      | error more => exact .error (List.rel_append issues more)

end ReadAlike

section

variable {names : List String} {other : Json.Fields}
  (same : ∀ name ∈ names, Json.Fields.get? name given = Json.Fields.get? name other)

include same

theorem Field.read_alike {field : Field} (named : field.name ∈ names) :
    ReadAlike names (field.read origin given) (field.read origin other) := by
  rw [Field.read, Field.read, ← same field.name named]
  cases Json.Fields.get? field.name given with
  | some value => exact .refl _
  | none =>
      cases field.default with
      | some value => exact .refl _
      | none => exact .error (.cons ⟨rfl, rfl, fun present => absurd rfl present, same⟩ .nil)

theorem Fields.read_alike (fields : Fields) (named : ∀ field ∈ fields.toList, field.name ∈ names) :
    ReadAlike names (fields.read origin given) (fields.read origin other) := by
  match fields with
  | .done =>
      rw [Fields.read, Fields.read]
      exact .ok []
  | .field name shape default rest =>
      rw [Fields.toList, List.forall_mem_cons] at named
      rw [Fields.read_cons, Fields.read_cons]
      exact ((Field.read_alike same named.1).both (Fields.read_alike rest named.2)).map _

end

end SavingsSite.Schema
