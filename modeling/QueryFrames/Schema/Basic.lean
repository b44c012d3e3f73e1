/-!
Result shapes. A shape is a list of fields; a field has a name, the warehouse's tag for its type, a mode, and,
when it is a record, fields of its own.
-/

namespace QueryFrames

/-- Whether a field may be absent, must be present, or repeats. -/
inductive FieldMode where
  | nullable
  | required
  | repeated
deriving DecidableEq, Repr, Inhabited

namespace FieldMode

/-- All modes. -/
def all : List FieldMode := [nullable, required, repeated]

/-- The name of a mode. -/
def name : FieldMode → String
  | nullable => "NULLABLE"
  | required => "REQUIRED"
  | repeated => "REPEATED"

/-- The mode of exactly that name. -/
def ofName? (text : String) : Option FieldMode :=
  all.find? (·.name = text)

theorem ofName?_name (mode : FieldMode) : ofName? mode.name = some mode := by
  cases mode <;> decide

end FieldMode

/-- One column of a result, with the columns nested in it. -/
structure SchemaField where
  name : String
  typeTag : String
  mode : FieldMode
  fields : List SchemaField
deriving Repr, Inhabited

/-- The shape of a result. -/
abbrev Schema := List SchemaField

namespace SchemaField

/-- Whether the field may be absent. -/
def isNullable (field : SchemaField) : Bool :=
  field.mode = .nullable

/-- Whether the field repeats. -/
def isRepeated (field : SchemaField) : Bool :=
  field.mode = .repeated

/-- Whether the type tag is one that carries nested fields. -/
def isStruct (field : SchemaField) : Bool :=
  field.typeTag = "RECORD" || field.typeTag = "STRUCT"

end SchemaField

/-- The names of the outermost fields. -/
def Schema.columnNames (schema : Schema) : List String :=
  schema.map (·.name)

end QueryFrames
