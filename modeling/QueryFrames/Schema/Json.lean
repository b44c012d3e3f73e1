import QueryFrames.Json.Decode
import QueryFrames.Json.Writer
import QueryFrames.Schema.Basic

/-!
Result shapes as JSON. A field is written as an object with its name, type and mode, and with its nested fields
only when it has some; reading one, mode and nested fields may be left out.
-/

namespace QueryFrames

mutual

/-- A field as a JSON value. -/
def SchemaField.toJson : SchemaField → Json
  | ⟨name, typeTag, mode, fields⟩ =>
    .object ([("name", .string name), ("type", .string typeTag), ("mode", .string mode.name)] ++
      match fields with
      | [] => []
      | field :: fields => [("fields", .array (field.toJson :: Schema.itemsToJson fields))])

/-- Fields as JSON values. -/
def Schema.itemsToJson : List SchemaField → List Json
  | [] => []
  | field :: fields => field.toJson :: Schema.itemsToJson fields

end

/-- A shape as a JSON value. -/
def Schema.toJson (schema : Schema) : Json :=
  .array (Schema.itemsToJson schema)

/-- A shape as JSON text. -/
def Schema.toText (schema : Schema) : String :=
  schema.toJson.render

/-- A mode, which is a name. -/
def FieldMode.ofSource? : Nat → Json.Source → Option FieldMode :=
  Json.Source.variant? FieldMode.ofName?

/-- A field read from a source. -/
def SchemaField.ofSource? : Nat → Json.Source → Option SchemaField
  | 0, _ => none
  | depth + 1, source =>
    match source.record? ["name", "type", "mode", "fields"] with
    | some [some name, some typeTag, mode, fields] => do
      let name ← name.string?
      let typeTag ← typeTag.string?
      let mode ←
        match mode with
        | none => some .nullable
        | some mode => FieldMode.ofSource? depth mode
      let fields ←
        match fields, depth with
        | none, _ => some []
        | some (.array items), inner + 1 => items.mapM (SchemaField.ofSource? inner)
        | some _, _ => none
      pure ⟨name, typeTag, mode, fields⟩
    | _ => none

/-- A shape read from a source. -/
def Schema.ofSource? : Nat → Json.Source → Option Schema :=
  Json.Source.list? SchemaField.ofSource?

/-- A shape read from JSON text. -/
def Schema.ofText? (text : String) : Option Schema :=
  (Json.Source.ofText? text).bind (Schema.ofSource? Json.nestingLimit)

end QueryFrames
