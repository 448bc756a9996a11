import SavingsSite.Schema.Record

set_option autoImplicit false

/-! Objects of a record kind, which can be assigned to after they were read. An object holds values
under any names and shows those of its fields. A name that starts with a low line is no field: its
assignment is never refused for a frozen kind, and a few of these names are the ones under which
an object looks up how it assigns and how it is shown. A value held there stands in their place. -/

namespace SavingsSite.Schema

structure RecordObject where
  held : Json.Fields
  extra : Json := .null
  /-- Values under names that the object keeps private, if it has such names. -/
  kept : Json := .null
  marks : Option Json := none
  /-- The fields that were assigned before; how they are assigned is not looked up again. -/
  learned : List String := []

inductive ObjectFault where
  | frozen (issue : Issue)
  | unknownField (title name : String)
  | derived (title name : String)
  | unwritable (title name : String)
  | readOnly (owner : Json) (name : String)
  | lacking (owner : Json) (name : String)
  | missing (title name : String)
  | notClass (value : Json)
  | notContents (value : Json)
  | notOperation (value : Json)
  | notIndexed (value : Json)
  | notSearched (value : Json)

def ObjectFault.message : ObjectFault → String
  | .frozen issue => issue.kind.message
  | .unknownField title name => "\"" ++ title ++ "\" object has no field \"" ++ name ++ "\""
  | .derived title name => "property '" ++ name ++ "' of '" ++ title ++ "' object has no setter"
  | .unwritable title name =>
      "attribute '" ++ name ++ "' of '" ++ title ++ "' objects is not writable"
  | .readOnly owner name =>
      "'" ++ owner.sortName ++ "' object attribute '" ++ name ++ "' is read-only"
  | .lacking owner name => "'" ++ owner.sortName ++ "' object has no attribute '" ++ name ++ "'"
  | .missing title name => "'" ++ title ++ "' object has no attribute '" ++ name ++ "'"
  | .notClass value => "__class__ must be set to a class, not '" ++ value.sortName ++ "' object"
  | .notContents value => "__dict__ must be set to a dictionary, not a '" ++ value.sortName ++ "'"
  | .notOperation value => "'" ++ value.sortName ++ "' object is not callable"
  | .notIndexed (.list _) => "list indices must be integers or slices, not str"
  | .notIndexed (.text _) => "string indices must be integers, not 'str'"
  | .notIndexed value => "'" ++ value.sortName ++ "' object is not subscriptable"
  | .notSearched value => "argument of type '" ++ value.sortName ++ "' is not iterable"

def ObjectFault.isAbsence : ObjectFault → Bool
  | .lacking _ _ => true
  | .missing _ _ => true
  | _ => false

namespace RecordObject

def ofRecord : Json → RecordObject
  | .record fields => { held := fields }
  | _ => { held := [] }

def held? (object : RecordObject) (name : String) : Option Json :=
  Json.Fields.get? name object.held

def hold (object : RecordObject) (name : String) (value : Json) : RecordObject :=
  { object with held := Json.Fields.put (.sound name) value object.held }

/-- What keeps an object from assigning to a name: a value in the place of its table of ways to
assign, or of the operation that finds a way when the table has none. -/
def obstacle? (object : RecordObject) (name : String) : Option ObjectFault :=
  let finding : Option ObjectFault :=
    if object.learned.contains name then none
    else (object.held? "_setattr_handler").map .notOperation
  match object.held? "__pydantic_setattr_handlers__" with
  | none => finding
  | some (.record ways) =>
      match Json.Fields.get? name ways with
      | none => finding
      | some .null => finding
      | some way => some (.notOperation way)
  | some other => some (.lacking other "get")

end RecordObject

namespace RecordKind

/-- What every object derives from its fields; it can be read but not assigned. -/
def derivedNames : List String := ["model_extra", "model_fields_set", "__fields_set__"]

def isInner (name : String) : Bool := name.toList.head? = some '_'

def assignInner (kind : RecordKind) (object : RecordObject) (name : String) (value : Json) :
    Option ObjectFault × RecordObject :=
  if derivedNames.contains name then (some (.derived kind.title name), object)
  else if name = "__weakref__" then (some (.unwritable kind.root name), object)
  else if name = "__class__" then (some (.notClass value), object)
  else if name = "__dict__" then
    match value with
    | .record fields => (none, { object with held := fields })
    | other => (some (.notContents other), object)
  else if name = "__pydantic_fields_set__" then (none, { object with marks := some value })
  else if name = "__pydantic_extra__" then (none, { object with extra := value })
  else if name = "__pydantic_private__" then (none, { object with kept := value })
  else (none, object.hold name value)

/-- An assignment to a known field. Its value is not checked again, and it stays when something
stands in the place of the set that the field's name is added to. -/
def assignField (object : RecordObject) (name : String) (value : Json) :
    Option ObjectFault × RecordObject :=
  let next := object.hold name value
  match next.marks with
  | some other => (some (.lacking other "add"), next)
  | none => (none, { next with learned := name :: next.learned })

def assign (kind : RecordKind) (object : RecordObject) (name : String) (value : Json) :
    Option ObjectFault × RecordObject :=
  match object.obstacle? name with
  | some fault => (some fault, object)
  | none =>
      if isInner name then kind.assignInner object name value
      else if kind.frozen then (some (.frozen ⟨.frozen, [.field name], value⟩), object)
      else if derivedNames.contains name then (some (.derived kind.title name), object)
      else if kind.fields.names.contains name then assignField object name value
      else (some (.unknownField kind.title name), object)

def assignAll (kind : RecordKind) (object : RecordObject) :
    List (String × Json) → List (Option ObjectFault) × RecordObject
  | [] => ([], object)
  | (name, value) :: rest =>
      let (fault, next) := kind.assign object name value
      let (faults, last) := kind.assignAll next rest
      (fault :: faults, last)

def shown (kind : RecordKind) (object : RecordObject) : Except ObjectFault Json :=
  match object.held? "model_dump", object.held? "__pydantic_serializer__" with
  | some other, _ => .error (.notOperation other)
  | none, some other => .error (.lacking other "to_python")
  | none, none =>
      .ok (.record (object.held.filter fun (name, _) =>
        name.sound?.any kind.fields.names.contains))

def entry (kind : RecordKind) (values : Json) (name : String) : Except ObjectFault Json :=
  match values with
  | .record fields =>
      match Json.Fields.get? name fields with
      | some value => .ok value
      | none => .error (.missing kind.title name)
  | other => .error (.notIndexed other)

/-- Whether a name is among private ones: the names of a record, the texts of a list, or a part of
a text. -/
def isAmong (name : String) : Json → Except ObjectFault Bool
  | .record fields => .ok (Json.Fields.get? name fields).isSome
  | .list items =>
      .ok (items.any fun
        | .text (.sound text) => text = name
        | _ => false)
  | .text text =>
      .ok ((List.range (text.symbols.length + 1)).any fun n =>
        (Text.symbols name).isPrefixOf (text.symbols.drop n))
  | other => .error (.notSearched other)

/-- What a name leads to that is neither held nor private. Without extra values the absence is
reported as `absence`. -/
def fromExtra (kind : RecordKind) (object : RecordObject) (name : String) (absence : ObjectFault) :
    Except ObjectFault Json :=
  if object.extra.isVoid then .error absence else kind.entry object.extra name

def further (kind : RecordKind) (object : RecordObject) (name : String) (absence : ObjectFault) :
    Except ObjectFault Json :=
  match object.held? "__private_attributes__" with
  | none => kind.fromExtra object name absence
  | some names =>
      match isAmong name names with
      | .error fault => .error fault
      | .ok false => kind.fromExtra object name absence
      | .ok true =>
          match names with
          | .record _ => kind.entry object.kept name
          | other => .error (.notIndexed other)

def value (kind : RecordKind) (object : RecordObject) (name : String) : Except ObjectFault Json :=
  match object.held? name with
  | some value => .ok value
  | none => kind.further object name (.missing kind.title name)

/-- A value that is derived from others; where one of these is absent, the extra values may have
the derived one. -/
def derive (kind : RecordKind) (object : RecordObject) (name : String)
    (derived : Except ObjectFault Json) : Except ObjectFault Json :=
  match derived with
  | .ok value => .ok value
  | .error fault => if fault.isAbsence then kind.further object name fault else .error fault

end RecordKind

end SavingsSite.Schema
