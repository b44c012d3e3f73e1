import QueryFrames.Proofs.JsonText
import QueryFrames.Schema.Json

/-! Shapes as JSON text. A shape that is written reads back as it was, for as long as its text nests no deeper than a
reader goes. A text may leave out what a shape does not need, put its members in any order, or hold more than a shape
does; written again it is in normal form, which names every mode and no empty list of fields, and there it stays. -/

namespace QueryFrames

open Json (nesting nestingItems nestingMembers nestingLimit Numberless)
open Json.Source (ofJson ofItems)

/-! ### Fields as they are written -/

/-- A field in normal form: its name, type and mode in this order, and its fields behind them if it has some. -/
inductive SchemaField.Normal : Json → Prop
  | leaf (name typeTag : String) (mode : FieldMode) :
      Normal (.object [("name", .string name), ("type", .string typeTag), ("mode", .string mode.name)])
  | record (name typeTag : String) (mode : FieldMode) {items : List Json} (hsome : items ≠ [])
      (hitems : ∀ item ∈ items, Normal item) :
      Normal (.object [("name", .string name), ("type", .string typeTag), ("mode", .string mode.name),
        ("fields", .array items)])

namespace SchemaField

mutual

theorem normal_toJson : ∀ field : SchemaField, Normal field.toJson
  | ⟨name, typeTag, mode, []⟩ => .leaf name typeTag mode
  | ⟨name, typeTag, mode, field :: fields⟩ =>
      .record name typeTag mode (List.cons_ne_nil _ _) (normal_itemsToJson (field :: fields))

theorem normal_itemsToJson : ∀ fields : List SchemaField, ∀ item ∈ Schema.itemsToJson fields, Normal item
  | [] => List.forall_mem_nil _
  | field :: fields => List.forall_mem_cons.mpr ⟨normal_toJson field, normal_itemsToJson fields⟩

end

theorem exists_itemsToJson {items : List Json} (h : ∀ item ∈ items, ∃ field : SchemaField, field.toJson = item) :
    ∃ fields : List SchemaField, Schema.itemsToJson fields = items := by
  induction items with
  | nil => exact ⟨[], rfl⟩
  | cons item items ih =>
      obtain ⟨⟨field, rfl⟩, hitems⟩ := List.forall_mem_cons.mp h
      obtain ⟨fields, rfl⟩ := ih hitems
      exact ⟨field :: fields, rfl⟩

/-- Only written fields are in normal form. -/
theorem Normal.exists_field {value : Json} (h : Normal value) : ∃ field : SchemaField, field.toJson = value := by
  induction h with
  | leaf name typeTag mode => exact ⟨⟨name, typeTag, mode, []⟩, rfl⟩
  | record name typeTag mode hsome hitems ih =>
      obtain ⟨_ | ⟨field, fields⟩, rfl⟩ := exists_itemsToJson ih
      · exact absurd rfl hsome
      · exact ⟨⟨name, typeTag, mode, field :: fields⟩, rfl⟩

theorem Normal.numberless {value : Json} (h : Normal value) : Numberless value := by
  induction h with
  | leaf name typeTag mode => exact .object (by simp [Numberless.string])
  | record name typeTag mode hsome hitems ih => exact .object (by simp [Numberless.string, Numberless.array ih])

/-! ### Fields as they are read -/

section

variable (depth : Nat) (name typeTag : String) (mode : FieldMode) (field : SchemaField) (fields : List SchemaField)

theorem toJson_leaf :
    toJson ⟨name, typeTag, mode, []⟩ =
      .object [("name", .string name), ("type", .string typeTag), ("mode", .string mode.name)] :=
  rfl

theorem toJson_record :
    toJson ⟨name, typeTag, mode, field :: fields⟩ =
      .object [("name", .string name), ("type", .string typeTag), ("mode", .string mode.name),
        ("fields", .array (Schema.itemsToJson (field :: fields)))] :=
  rfl

theorem nesting_leaf : (toJson ⟨name, typeTag, mode, []⟩).nesting = 1 := by
  rw [toJson_leaf]
  simp [nesting, nestingMembers]

theorem nesting_record :
    (toJson ⟨name, typeTag, mode, field :: fields⟩).nesting =
      nestingItems (Schema.itemsToJson (field :: fields)) + 2 := by
  rw [toJson_record]
  simp [nesting, nestingMembers]

theorem ofSource?_leaf :
    ofSource? (depth + 1) (ofJson (toJson ⟨name, typeTag, mode, []⟩)) = some ⟨name, typeTag, mode, []⟩ := by
  have hmode : FieldMode.ofSource? depth (.string (some mode.name)) = some mode := FieldMode.ofName?_name mode
  have hrecord : (ofJson (toJson ⟨name, typeTag, mode, []⟩)).record? ["name", "type", "mode", "fields"] =
      some [some (.string (some name)), some (.string (some typeTag)), some (.string (some mode.name)), none] := rfl
  rw [ofSource?, hrecord]
  simp [hmode, Json.Source.string?]

theorem record?_record :
    (ofJson (toJson ⟨name, typeTag, mode, field :: fields⟩)).record? ["name", "type", "mode", "fields"] =
      some [some (.string (some name)), some (.string (some typeTag)), some (.string (some mode.name)),
        some (.array (ofItems (Schema.itemsToJson (field :: fields))))] :=
  rfl

theorem ofSource?_record_one : ofSource? 1 (ofJson (toJson ⟨name, typeTag, mode, field :: fields⟩)) = none := by
  rw [ofSource?, record?_record]
  simp [Json.Source.string?]

theorem ofSource?_record :
    ofSource? (depth + 2) (ofJson (toJson ⟨name, typeTag, mode, field :: fields⟩)) =
      ((ofItems (Schema.itemsToJson (field :: fields))).mapM (ofSource? depth)).map (⟨name, typeTag, mode, ·⟩) := by
  have hmode : FieldMode.ofSource? (depth + 1) (.string (some mode.name)) = some mode := FieldMode.ofName?_name mode
  rw [ofSource?, record?_record]
  simp [hmode, Json.Source.string?, Option.map_eq_bind, Function.comp_def]

end

mutual

/-- A written field reads back if the reader may go as deep. -/
theorem ofSource?_toJson : ∀ (depth : Nat) (field : SchemaField),
    ofSource? depth (ofJson field.toJson) = if field.toJson.nesting ≤ depth then some field else none
  | 0, ⟨name, typeTag, mode, []⟩ => rfl
  | 0, ⟨name, typeTag, mode, field :: fields⟩ => rfl
  | depth + 1, ⟨name, typeTag, mode, []⟩ => by
      rw [ofSource?_leaf, nesting_leaf, if_pos (Nat.le_add_left 1 depth)]
  | 1, ⟨name, typeTag, mode, field :: fields⟩ => by
      rw [ofSource?_record_one, nesting_record, if_neg (by omega)]
  | depth + 2, ⟨name, typeTag, mode, field :: fields⟩ => by
      rw [ofSource?_record, mapM_ofSource?_itemsToJson depth (field :: fields), nesting_record]
      simp only [Nat.add_le_add_iff_right]
      split <;> rfl

theorem mapM_ofSource?_itemsToJson : ∀ (depth : Nat) (fields : List SchemaField),
    (ofItems (Schema.itemsToJson fields)).mapM (ofSource? depth) =
      if nestingItems (Schema.itemsToJson fields) ≤ depth then some fields else none
  | depth, [] => rfl
  | depth, field :: fields => by
      have hfield := ofSource?_toJson depth field
      have hfields := mapM_ofSource?_itemsToJson depth fields
      rw [Schema.itemsToJson, ofItems, List.mapM_cons, hfield, hfields, nestingItems]
      simp only [Nat.max_le]
      by_cases h : field.toJson.nesting ≤ depth <;> by_cases h' : nestingItems (Schema.itemsToJson fields) ≤ depth <;>
        simp [h, h']

end

/-- The fields of a field are read two levels further down. -/
theorem fields_of_ofSource? {depth : Nat} {source : Json.Source} {field : SchemaField}
    (h : ofSource? (depth + 1) source = some field) :
    field.fields = [] ∨ ∃ (inner : Nat) (items : List Json.Source), depth = inner + 1 ∧
      items.mapM (ofSource? inner) = some field.fields := by
  rw [ofSource?] at h
  split at h
  · next name typeTag mode fields hrecord =>
      obtain ⟨name, -, h⟩ := Option.bind_eq_some_iff.mp h
      obtain ⟨typeTag, -, h⟩ := Option.bind_eq_some_iff.mp h
      dsimp only at h
      rcases mode with _ | mode
      all_goals
        obtain ⟨mode, -, h⟩ := Option.bind_eq_some_iff.mp h
        split at h
        · cases h
          exact Or.inl rfl
        · obtain ⟨fields, hfields, h⟩ := Option.bind_eq_some_iff.mp h
          cases h
          exact Or.inr ⟨_, _, rfl, hfields⟩
        · cases h
  · cases h

theorem nestingItems_le_of_mapM {depth : Nat} {items : List Json.Source} {fields : List SchemaField}
    (h : items.mapM (ofSource? depth) = some fields)
    (hitem : ∀ source field, ofSource? depth source = some field → field.toJson.nesting ≤ depth) :
    nestingItems (Schema.itemsToJson fields) ≤ depth := by
  induction items generalizing fields with
  | nil =>
      cases h
      exact Nat.zero_le depth
  | cons source items ih =>
      rw [List.mapM_cons] at h
      obtain ⟨field, hfield, h⟩ := Option.bind_eq_some_iff.mp h
      obtain ⟨rest, hrest, h⟩ := Option.bind_eq_some_iff.mp h
      cases h
      exact Nat.max_le.mpr ⟨hitem source field hfield, ih hrest⟩

/-- What was read can be written without going deeper than the reader went. -/
theorem nesting_le_of_ofSource? {depth : Nat} {source : Json.Source} {field : SchemaField}
    (h : ofSource? depth source = some field) : field.toJson.nesting ≤ depth := by
  induction depth using Nat.strongRecOn generalizing source field with
  | ind depth ih =>
      obtain ⟨name, typeTag, mode, fields⟩ := field
      rcases depth with _ | depth
      · cases h
      · rcases fields with _ | ⟨first, fields⟩
        · rw [nesting_leaf]
          exact Nat.le_add_left 1 depth
        · rcases fields_of_ofSource? h with hnone | ⟨inner, items, rfl, hitems⟩
          · cases hnone
          · rw [nesting_record]
            exact Nat.add_le_add_right (nestingItems_le_of_mapM hitems fun _ _ => ih inner (by omega)) 2

end SchemaField

/-! ### Shapes -/

namespace Schema

variable {text written : String} {schema : Schema}

theorem numberless_toJson (schema : Schema) : Numberless schema.toJson :=
  .array fun item hitem => (SchemaField.normal_itemsToJson schema item hitem).numberless

/-- A written shape reads back if it is nested no deeper than a reader goes. -/
theorem ofText?_toText (schema : Schema) :
    ofText? schema.toText = if schema.toJson.nesting ≤ nestingLimit then some schema else none := by
  have hread : ofText? schema.toText = (ofItems (itemsToJson schema)).mapM (SchemaField.ofSource? 126) := by
    rw [ofText?, toText, (numberless_toJson schema).source_ofText?_render]
    rfl
  have hdepth : schema.toJson.nesting ≤ nestingLimit ↔ nestingItems (itemsToJson schema) ≤ 126 := Nat.succ_le_succ_iff
  rw [hread, SchemaField.mapM_ofSource?_itemsToJson]
  simp only [hdepth]

theorem nesting_le_of_ofText? (h : ofText? text = some schema) : schema.toJson.nesting ≤ nestingLimit := by
  obtain ⟨source, -, h⟩ := Option.bind_eq_some_iff.mp h
  rw [ofSource?, Json.Source.list?.eq_def] at h
  split at h
  · next depth items hdepth =>
      cases hdepth
      exact Nat.succ_le_succ
        (SchemaField.nestingItems_le_of_mapM h fun _ _ => SchemaField.nesting_le_of_ofSource?)
  · cases h

/-- The text of a list of fields in normal form, nested no deeper than a reader goes. -/
def NormalText (text : String) : Prop :=
  ∃ items : List Json, text = (Json.array items).render ∧ (∀ item ∈ items, SchemaField.Normal item) ∧
    (Json.array items).nesting ≤ nestingLimit

/-- The shape that a text stands for, written again. -/
def rewrite? (text : String) : Option String :=
  (ofText? text).map toText

theorem normalText_toText (h : schema.toJson.nesting ≤ nestingLimit) : NormalText schema.toText :=
  ⟨itemsToJson schema, rfl, SchemaField.normal_itemsToJson schema, h⟩

theorem NormalText.exists_schema (h : NormalText text) :
    ∃ schema : Schema, schema.toText = text ∧ schema.toJson.nesting ≤ nestingLimit := by
  obtain ⟨items, rfl, hnormal, hdepth⟩ := h
  obtain ⟨schema, rfl⟩ := SchemaField.exists_itemsToJson fun item hitem => (hnormal item hitem).exists_field
  exact ⟨schema, rfl, hdepth⟩

/-- A shape is read back from its text exactly if that is nested no deeper than a reader goes. What was read from any
text is written in normal form and read from there without loss, and a text is in normal form exactly if it stays as it
is when it is read and written again. -/
theorem rewritten_text :
    (∀ schema : Schema, ofText? schema.toText = some schema ↔ schema.toJson.nesting ≤ nestingLimit) ∧
      (∀ text written, rewrite? text = some written →
        NormalText written ∧ ofText? written = ofText? text ∧ rewrite? written = some written) ∧
        ∀ text, rewrite? text = some text ↔ NormalText text := by
  have hreads : ∀ schema : Schema, ofText? schema.toText = some schema ↔ schema.toJson.nesting ≤ nestingLimit := by
    intro schema
    rw [ofText?_toText]
    simp
  refine ⟨hreads, fun text written h => ?_, fun text => ⟨fun h => ?_, fun h => ?_⟩⟩
  · obtain ⟨schema, hschema, rfl⟩ := Option.map_eq_some_iff.mp h
    have hdepth := nesting_le_of_ofText? hschema
    have hread := (hreads schema).mpr hdepth
    exact ⟨normalText_toText hdepth, hread.trans hschema.symm, by rw [rewrite?, hread]; rfl⟩
  · obtain ⟨schema, hschema, heq⟩ := Option.map_eq_some_iff.mp h
    exact heq ▸ normalText_toText (nesting_le_of_ofText? hschema)
  · obtain ⟨schema, rfl, hdepth⟩ := h.exists_schema
    rw [rewrite?, (hreads schema).mpr hdepth]
    rfl

end Schema

/-! ### A text that is not in normal form -/

namespace Rewritten

open Schema (rewrite? NormalText)

/-- A text with its members in another order, a mode and fields left out, a mode as an object, a field as an array and
a member that no field has. -/
def loose : String :=
  "[ \x7b\"type\":\"RECORD\",\"fields\":[[\"a\",\"INTEGER\"]],\"name\":\"s\",\"note\":[null]\x7d,"
    ++ " \x7b\"name\":\"t\",\"type\":\"STRING\",\"fields\":[],\"mode\":\x7b\"REQUIRED\":null\x7d\x7d ]"

/-- The same shape in normal form. -/
def normal : String :=
  "[\x7b\"name\":\"s\",\"type\":\"RECORD\",\"mode\":\"NULLABLE\",\"fields\":"
    ++ "[\x7b\"name\":\"a\",\"type\":\"INTEGER\",\"mode\":\"NULLABLE\"\x7d]\x7d,"
    ++ "\x7b\"name\":\"t\",\"type\":\"STRING\",\"mode\":\"REQUIRED\"\x7d]"

/-- The loose text is brought into normal form and stays there. -/
theorem rewritten_loose : rewrite? loose = some normal ∧ NormalText normal ∧ rewrite? normal = some normal := by
  have hloose : rewrite? loose = some normal := by decide +kernel
  obtain ⟨hnormal, -, hstays⟩ := Schema.rewritten_text.2.1 loose normal hloose
  exact ⟨hloose, hnormal, hstays⟩

end Rewritten

end QueryFrames
