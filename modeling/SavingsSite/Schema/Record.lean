import SavingsSite.Schema.Shape

set_option autoImplicit false

/-! Kinds of records: their title, their fields, and whether a field may be assigned later. -/

namespace SavingsSite.Schema

structure RecordKind where
  title : String
  /-- The title of the first kind of its line whose objects can be referred to. -/
  root : String := title
  fields : Fields
  frozen : Bool

namespace RecordKind

def shape (kind : RecordKind) : Shape := .record kind.title kind.fields

def ofData (kind : RecordKind) (input : Json) : Except (List Issue) Json :=
  kind.shape.read .data input

def ofDocument (kind : RecordKind) (input : String) : Except (List Issue) Json :=
  match Json.Document.read input with
  | .error fault => oneIssue (.invalidDocument fault) (Json.ofString input)
  | .ok value => kind.shape.read .document value

end RecordKind

end SavingsSite.Schema
