import QueryFrames.Schema.Basic

/-!
The tree drawn of a result shape: a root line, then one line for each field in preorder. The fields of a field
that is no record are not drawn.
-/

namespace QueryFrames

/-- The line of one field, without what leads up to it. -/
def SchemaField.label (field : SchemaField) : String :=
  field.name ++ ": " ++ field.typeTag ++ " (" ++ field.mode.name ++ ")"

mutual

/-- The lines of a field and of what is nested in it. -/
def SchemaField.treeLines (lead : String) : SchemaField → List String
  | ⟨name, typeTag, mode, fields⟩ =>
    let field : SchemaField := ⟨name, typeTag, mode, fields⟩
    (lead ++ field.label) :: if field.isStruct then Schema.treeLines (" |   " ++ lead) fields else []

/-- The lines of a list of fields. -/
def Schema.treeLines (lead : String) : List SchemaField → List String
  | [] => []
  | field :: fields => field.treeLines lead ++ Schema.treeLines lead fields

end

/-- The tree of a shape, every line ended by a line feed. -/
def Schema.tree (schema : Schema) : String :=
  String.intercalate "\n" ("root" :: Schema.treeLines " |-- " schema) ++ "\n"

end QueryFrames
