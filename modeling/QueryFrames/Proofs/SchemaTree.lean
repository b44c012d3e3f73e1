import Mathlib.Data.List.Infix
import QueryFrames.Schema.Tree

/-! The tree of a shape, read back. A tree has one line for each field that is shown, in preorder, and the groups in
front of the mark of a line say how deep its field lies, whatever its name looks like. So the fields that are shown can
be put together again, each under the last one before it that lies less deep, and a tree tells all of a shape but what
is nested in fields that are no records. -/

namespace QueryFrames

/-! ### What is shown -/

mutual

/-- The field with what is shown of it. -/
def SchemaField.pruned : SchemaField → SchemaField
  | ⟨name, typeTag, mode, fields⟩ =>
    let field : SchemaField := ⟨name, typeTag, mode, fields⟩
    { field with fields := if field.isStruct then Schema.pruned fields else [] }

/-- The fields with what is shown of them: those of a field that is no record are left out. -/
def Schema.pruned : List SchemaField → List SchemaField
  | [] => []
  | field :: fields => field.pruned :: Schema.pruned fields

end

mutual

/-- A field and the fields shown under it, each with its depth. -/
def SchemaField.outline (depth : Nat) : SchemaField → List (Nat × SchemaField)
  | ⟨name, typeTag, mode, fields⟩ =>
    let field : SchemaField := ⟨name, typeTag, mode, fields⟩
    (depth, field) :: if field.isStruct then Schema.outline (depth + 1) fields else []

/-- The fields that are shown in preorder, each with its depth. -/
def Schema.outline (depth : Nat) : List SchemaField → List (Nat × SchemaField)
  | [] => []
  | field :: fields => field.outline depth ++ Schema.outline depth fields

end

/-- A field is shown if it is one of the outermost fields, or a field of a record that is shown one less deep. -/
inductive Schema.Shows (schema : Schema) : Nat → SchemaField → Prop
  | outermost {field : SchemaField} (hfield : field ∈ schema) : Shows schema 0 field
  | nested {depth : Nat} {parent field : SchemaField} (hparent : Shows schema depth parent)
      (hstruct : parent.isStruct = true) (hfield : field ∈ parent.fields) : Shows schema (depth + 1) field

/-- What stands in front of a field: one group for each field that it lies in, then the mark. -/
def SchemaField.lead : Nat → String
  | 0 => " |-- "
  | depth + 1 => " |   " ++ lead depth

/-- The line of a field. -/
def SchemaField.drawn (depth : Nat) (field : SchemaField) : String :=
  lead depth ++ field.label

namespace Schema

variable {schema : Schema} {fields : List SchemaField} {field parent : SchemaField} {depth start : Nat}

/-- What holds of a list of fields if it holds of those nested in the first and of those behind it, holds of all. -/
theorem fields_induction {motive : List SchemaField → Prop} (hnil : motive [])
    (hcons : ∀ (field : SchemaField) (fields : List SchemaField), motive field.fields → motive fields →
      motive (field :: fields)) (fields : List SchemaField) : motive fields :=
  SchemaField.rec_1 (fun _ _ _ _ hfields => hfields) hnil hcons fields

theorem pruned_cons (field : SchemaField) (fields : List SchemaField) :
    pruned (field :: fields) =
      { field with fields := if field.isStruct then pruned field.fields else [] } :: pruned fields := by
  cases field
  rw [pruned, SchemaField.pruned]

theorem outline_cons (depth : Nat) (field : SchemaField) (fields : List SchemaField) :
    outline depth (field :: fields) =
      (depth, field) ::
        ((if field.isStruct then outline (depth + 1) field.fields else []) ++ outline depth fields) := by
  cases field
  rw [outline, SchemaField.outline, List.cons_append]

theorem treeLines_cons (lead : String) (field : SchemaField) (fields : List SchemaField) :
    treeLines lead (field :: fields) =
      (lead ++ field.label) ::
        ((if field.isStruct then treeLines (" |   " ++ lead) field.fields else []) ++ treeLines lead fields) := by
  cases field
  rw [treeLines, SchemaField.treeLines, List.cons_append]

theorem treeLines_eq (depth : Nat) (fields : List SchemaField) :
    treeLines (SchemaField.lead depth) fields = (outline depth fields).map fun line => line.2.drawn line.1 := by
  induction fields using fields_induction generalizing depth with
  | hnil => rfl
  | hcons field fields hnested hrest =>
      rw [treeLines_cons, outline_cons, List.map_cons, List.map_append, hrest]
      cases field.isStruct with
      | false => rfl
      | true =>
          rw [if_pos rfl, if_pos rfl, ← hnested]
          rfl

/-- Nothing that is left out is drawn. -/
theorem treeLines_pruned (lead : String) (fields : List SchemaField) :
    treeLines lead (pruned fields) = treeLines lead fields := by
  induction fields using fields_induction generalizing lead with
  | hnil => rfl
  | hcons field fields hnested hrest =>
      have hlabel : ∀ inner, ({ field with fields := inner } : SchemaField).label = field.label := fun _ => rfl
      have hstruct : ∀ inner, ({ field with fields := inner } : SchemaField).isStruct = field.isStruct := fun _ => rfl
      rw [pruned_cons, treeLines_cons, treeLines_cons, hrest, hlabel, hstruct]
      cases field.isStruct with
      | false => rfl
      | true => rw [if_pos rfl, if_pos rfl, if_pos rfl, hnested]

theorem tree_pruned (schema : Schema) : tree (pruned schema) = schema.tree := by
  rw [tree, tree, treeLines_pruned]

theorem intercalate_concat_newline (lines : List String) (first : String) :
    String.intercalate "\n" (first :: lines) ++ "\n" = first ++ "\n" ++ String.join (lines.map (· ++ "\n")) := by
  induction lines generalizing first with
  | nil => simp
  | cons line lines ih =>
      rw [String.intercalate_cons_cons, String.append_assoc, ih]
      simp [String.append_assoc]

theorem tree_eq (schema : Schema) :
    schema.tree = "root\n" ++ String.join ((outline 0 schema).map fun line => line.2.drawn line.1 ++ "\n") := by
  have hlines : treeLines " |-- " schema = (outline 0 schema).map fun line => line.2.drawn line.1 :=
    treeLines_eq 0 schema
  rw [tree, hlines, intercalate_concat_newline, List.map_map]
  rfl

theorem Shows.of_mem_outline (hfields : ∀ field ∈ fields, schema.Shows start field)
    (h : (depth, field) ∈ outline start fields) : schema.Shows depth field := by
  induction fields using fields_induction generalizing start with
  | hnil => cases h
  | hcons first fields hnested hrest =>
      obtain ⟨hfirst, hfields⟩ := List.forall_mem_cons.mp hfields
      rw [outline_cons, List.mem_cons, List.mem_append] at h
      rcases h with heq | h | h
      · cases heq
        exact hfirst
      · split at h
        · next hstruct => exact hnested (fun _ hfield => hfirst.nested hstruct hfield) h
        · cases h
      · exact hrest hfields h

theorem mem_outline_of_mem (hfield : field ∈ fields) : (depth, field) ∈ outline depth fields := by
  induction fields with
  | nil => cases hfield
  | cons first fields ih =>
      rw [outline_cons, List.mem_cons, List.mem_append]
      rcases List.mem_cons.mp hfield with rfl | hfield
      · exact Or.inl rfl
      · exact Or.inr (Or.inr (ih hfield))

theorem mem_outline_nested (hparent : (depth, parent) ∈ outline start fields) (hstruct : parent.isStruct = true)
    (hfield : field ∈ parent.fields) : (depth + 1, field) ∈ outline start fields := by
  induction fields using fields_induction generalizing start with
  | hnil => cases hparent
  | hcons first fields hnested hrest =>
      rw [outline_cons, List.mem_cons, List.mem_append] at hparent ⊢
      rcases hparent with heq | hparent | hparent
      · cases heq
        rw [if_pos hstruct]
        exact Or.inr (Or.inl (mem_outline_of_mem hfield))
      · split at hparent
        · next hfirst =>
            rw [if_pos hfirst]
            exact Or.inr (Or.inl (hnested hparent))
        · cases hparent
      · exact Or.inr (Or.inr (hrest hparent))

/-- The outline holds the fields that are shown. -/
theorem mem_outline_iff : (depth, field) ∈ outline 0 schema ↔ schema.Shows depth field := by
  constructor
  · exact Shows.of_mem_outline fun _ hfield => .outermost hfield
  · intro h
    induction h with
    | outermost hfield => exact mem_outline_of_mem hfield
    | nested _ hstruct hfield ih => exact mem_outline_nested ih hstruct hfield

end Schema

/-! ### Reading a line -/

namespace Text

variable {first second : Char} {before after : List Char}

/-- The text before the first place where two characters follow one another, and the text behind them. -/
def cutAt? (first second : Char) : List Char → Option (List Char × List Char)
  | [] => none
  | c :: rest =>
    if c = first ∧ rest.head? = some second then some ([], rest.tail)
    else (cutAt? first second rest).map fun (before, after) => (c :: before, after)

/-- A text may end with the first of the two characters and is not cut there for all that. -/
theorem cutAt?_append (hne : first ≠ second) (hbefore : ¬ [first, second] <:+: before) (after : List Char) :
    cutAt? first second (before ++ first :: second :: after) = some (before, after) := by
  induction before with
  | nil => simp [cutAt?]
  | cons c before ih =>
      have hrest : ¬ [first, second] <:+: before := fun h => hbefore (h.trans (List.suffix_cons c before).isInfix)
      have hhead : ¬ (c = first ∧ (before ++ first :: second :: after).head? = some second) := by
        rintro ⟨rfl, hsecond⟩
        cases before with
        | nil => exact hne (Option.some.inj hsecond)
        | cons d before =>
            obtain rfl : d = second := Option.some.inj hsecond
            exact hbefore (List.prefix_append [c, d] before).isInfix
      rw [List.cons_append, cutAt?, if_neg hhead, ih hrest]
      rfl

/-- The lines of a text in which each line is ended. -/
def endedLines? (text : List Char) : Option (List (List Char)) :=
  let lines := text.splitOn '\n'
  if lines.getLast? = some [] then some lines.dropLast else none

theorem endedLines?_flatMap {lines : List (List Char)} (h : ∀ line ∈ lines, '\n' ∉ line) :
    endedLines? (lines.flatMap (· ++ ['\n'])) = some lines := by
  have hsplit : (lines.flatMap (· ++ ['\n'])).splitOn '\n' = lines ++ [[]] := by
    induction lines with
    | nil => rfl
    | cons line lines ih =>
        obtain ⟨hline, hlines⟩ := List.forall_mem_cons.mp h
        rw [List.flatMap_cons, List.append_assoc, List.singleton_append,
          List.splitOn_append_cons_self_of_not_mem hline, ih hlines, List.cons_append]
  rw [endedLines?, hsplit, List.getLast?_concat, List.dropLast_concat]
  exact if_pos rfl

end Text

namespace SchemaField

variable {field : SchemaField} {depth : Nat}

/-- Whether a field can be told from its line: its name has no line feed in it and no colon with a blank behind it, and
its type has no line feed in it. -/
def Legible (field : SchemaField) : Prop :=
  '\n' ∉ field.name.toList ∧ ¬ [':', ' '] <:+: field.name.toList ∧ '\n' ∉ field.typeTag.toList

instance (field : SchemaField) : Decidable field.Legible :=
  inferInstanceAs (Decidable
    ('\n' ∉ field.name.toList ∧ ¬ [':', ' '] <:+: field.name.toList ∧ '\n' ∉ field.typeTag.toList))

/-- The depth that the groups in front of the mark of a line tell, and what stands behind the mark. -/
def readLead : List Char → Option (Nat × List Char)
  | ' ' :: '|' :: '-' :: '-' :: ' ' :: label => some (0, label)
  | ' ' :: '|' :: ' ' :: ' ' :: ' ' :: rest => (readLead rest).map fun (depth, label) => (depth + 1, label)
  | _ => none

/-- The field of a label: the name ends at the first colon with a blank behind it, and the mode stands in the last
parentheses with a blank before them. -/
def ofLabel? (label : List Char) : Option SchemaField := do
  let (name, behind) ← Text.cutAt? ':' ' ' label
  match ← Text.cutAt? '(' ' ' behind.reverse with
  | (')' :: mode, typeTag) =>
    let mode ← FieldMode.ofName? (String.ofList mode.reverse)
    pure ⟨String.ofList name, String.ofList typeTag.reverse, mode, []⟩
  | _ => none

/-- The depth and the field of a line. -/
def readLine? (line : List Char) : Option (Nat × SchemaField) := do
  let (depth, label) ← readLead line
  pure (depth, ← ofLabel? label)

theorem readLead_lead (depth : Nat) (label : List Char) :
    readLead ((lead depth).toList ++ label) = some (depth, label) := by
  induction depth with
  | zero => rfl
  | succ depth ih =>
      have hgroup : (lead (depth + 1)).toList = ' ' :: '|' :: ' ' :: ' ' :: ' ' :: (lead depth).toList := by
        rw [lead, String.toList_append]
        rfl
      rw [hgroup]
      simp only [List.cons_append, readLead, ih]
      rfl

theorem toList_label (field : SchemaField) :
    field.label.toList =
      field.name.toList ++
        ':' :: ' ' :: (field.typeTag.toList ++ ' ' :: '(' :: (field.mode.name.toList ++ [')'])) := by
  simp [label]

theorem ofLabel?_label (h : field.Legible) : ofLabel? field.label.toList = some { field with fields := [] } := by
  have hname : Text.cutAt? ':' ' ' field.label.toList =
      some (field.name.toList, field.typeTag.toList ++ ' ' :: '(' :: (field.mode.name.toList ++ [')'])) := by
    rw [toList_label]
    exact Text.cutAt?_append (by decide) h.2.1 _
  have hreverse : (field.typeTag.toList ++ ' ' :: '(' :: (field.mode.name.toList ++ [')'])).reverse =
      (')' :: field.mode.name.toList.reverse) ++ '(' :: ' ' :: field.typeTag.toList.reverse := by
    simp
  have hmode : ¬ ['(', ' '] <:+: ')' :: field.mode.name.toList.reverse := by
    cases field.mode <;> decide
  rw [ofLabel?, hname]
  simp only [Option.bind_eq_bind, Option.bind_some]
  rw [hreverse, Text.cutAt?_append (by decide) hmode]
  simp [FieldMode.ofName?_name]

theorem readLine?_drawn (h : field.Legible) (depth : Nat) :
    readLine? (field.drawn depth).toList = some (depth, { field with fields := [] }) := by
  rw [readLine?, drawn, String.toList_append, readLead_lead]
  simp [ofLabel?_label h]

theorem newline_not_mem_drawn (h : field.Legible) (depth : Nat) : '\n' ∉ (field.drawn depth).toList := by
  have hlead : '\n' ∉ (lead depth).toList := by
    induction depth with
    | zero => decide
    | succ depth ih => simp [lead, ih]
  have hmode : '\n' ∉ field.mode.name.toList := by cases field.mode <;> decide
  simp [drawn, label, hlead, hmode, h.1, h.2.2]

end SchemaField

/-! ### Reading a tree -/

namespace Schema

variable {schema : Schema} {fields : List SchemaField} {field : SchemaField} {depth : Nat}
  {inner later : List (Nat × SchemaField)}

/-- A field before fields that were put together: those in front that lie deeper become its own. -/
def adopt (line : Nat × SchemaField) (later : List (Nat × SchemaField)) : List (Nat × SchemaField) :=
  (line.1, { line.2 with fields := (later.takeWhile (line.1 < ·.1)).map (·.2) }) :: later.dropWhile (line.1 < ·.1)

/-- The fields of some lines put together; in the end none but outermost fields are left. -/
def ofLines? (lines : List (Nat × SchemaField)) : Option Schema :=
  let outermost := lines.foldr adopt []
  if outermost.all (·.1 = 0) then some (outermost.map (·.2)) else none

/-- The shape that a tree shows: the first line is that of the root, and each other one is that of a field. -/
def readTree? (text : String) : Option Schema := do
  match ← Text.endedLines? text.toList with
  | root :: lines => if root = "root".toList then ofLines? (← lines.mapM SchemaField.readLine?) else none
  | [] => none

theorem adopt_append (hinner : ∀ line ∈ inner, depth < line.1) (hlater : ∀ line ∈ later.head?, line.1 ≤ depth) :
    adopt (depth, field) (inner ++ later) = (depth, { field with fields := inner.map (·.2) }) :: later := by
  have hdeeper : ∀ line ∈ inner, decide (depth < line.1) = true := fun line hline => decide_eq_true (hinner line hline)
  have hstop : later.takeWhile (depth < ·.1) = [] ∧ later.dropWhile (depth < ·.1) = later := by
    cases later with
    | nil => exact ⟨rfl, rfl⟩
    | cons line later =>
        have hline : ¬ depth < line.1 := Nat.not_lt.mpr (hlater line rfl)
        simp [hline]
  rw [adopt, List.takeWhile_append_of_pos hdeeper, List.dropWhile_append_of_pos hdeeper, hstop.1, hstop.2,
    List.append_nil]

/-- The lines of some fields put together give the fields, before whatever does not lie deeper. -/
theorem foldr_adopt_outline (hlater : ∀ line ∈ later.head?, line.1 ≤ depth) (fields : List SchemaField) :
    ((outline depth fields).map fun line => (line.1, { line.2 with fields := [] })).foldr adopt later =
      (pruned fields).map (depth, ·) ++ later := by
  induction fields using fields_induction generalizing depth later with
  | hnil => rfl
  | hcons field fields hnested hrest =>
      have hhead : ∀ line ∈ ((pruned fields).map (depth, ·) ++ later).head?, line.1 ≤ depth := by
        cases fields with
        | nil => exact hlater
        | cons first fields =>
            rw [pruned_cons]
            rintro line ⟨⟩
            exact Nat.le_refl depth
      have hinner : ((if field.isStruct then outline (depth + 1) field.fields else []).map
            fun line => (line.1, ({ line.2 with fields := [] } : SchemaField))).foldr adopt
              ((pruned fields).map (depth, ·) ++ later) =
          (if field.isStruct then pruned field.fields else []).map (depth + 1, ·) ++
            ((pruned fields).map (depth, ·) ++ later) := by
        split
        · exact hnested fun line hline => Nat.le_succ_of_le (hhead line hline)
        · rfl
      have hdeeper : ∀ line ∈ (if field.isStruct then pruned field.fields else []).map (depth + 1, ·),
          depth < line.1 := by
        intro line hline
        obtain ⟨inner, -, rfl⟩ := List.mem_map.mp hline
        exact Nat.lt_succ_self depth
      rw [outline_cons, List.map_cons, List.map_append, List.foldr_cons, List.foldr_append, hrest hlater, hinner,
        adopt_append hdeeper hhead, List.map_map, pruned_cons]
      simp [Function.comp_def]

theorem ofLines?_outline (schema : Schema) :
    ofLines? ((outline 0 schema).map fun line => (line.1, { line.2 with fields := [] })) = some (pruned schema) := by
  have hnone : ∀ line ∈ ([] : List (Nat × SchemaField)).head?, line.1 ≤ 0 := nofun
  rw [ofLines?, foldr_adopt_outline hnone, List.append_nil]
  simp [Function.comp_def]

theorem mapM_readLine? {lines : List (Nat × SchemaField)} (h : ∀ line ∈ lines, line.2.Legible) :
    (lines.map fun line => (line.2.drawn line.1).toList).mapM SchemaField.readLine? =
      some (lines.map fun line => (line.1, { line.2 with fields := [] })) := by
  induction lines with
  | nil => rfl
  | cons line lines ih =>
      obtain ⟨hline, hlines⟩ := List.forall_mem_cons.mp h
      rw [List.map_cons, List.mapM_cons, SchemaField.readLine?_drawn hline, ih hlines]
      rfl

theorem readTree?_tree (h : ∀ depth field, schema.Shows depth field → field.Legible) :
    readTree? schema.tree = some (pruned schema) := by
  have hlegible : ∀ line ∈ outline 0 schema, line.2.Legible := fun line hline => h _ _ (mem_outline_iff.mp hline)
  have hlines : Text.endedLines? schema.tree.toList =
      some ("root".toList :: (outline 0 schema).map fun line => (line.2.drawn line.1).toList) := by
    rw [← Text.endedLines?_flatMap, tree_eq]
    · simp [String.toList_join, List.flatMap_map]
    · refine List.forall_mem_cons.mpr ⟨by decide, fun line hline => ?_⟩
      obtain ⟨drawn, hdrawn, rfl⟩ := List.mem_map.mp hline
      exact SchemaField.newline_not_mem_drawn (hlegible drawn hdrawn) _
  rw [readTree?, hlines]
  simp only [Option.bind_eq_bind, Option.bind_some, if_true, mapM_readLine? hlegible]
  exact ofLines?_outline schema

/-- A tree is a root line and then the lines of the fields that are shown, in preorder. Where names and types leave the
lines legible, a reader of the tree finds the shape without the fields nested in those that are no records, so two
shapes have one tree exactly if they differ in no other fields. -/
theorem tree_outline (schema : Schema) :
    schema.tree = "root\n" ++ String.join ((outline 0 schema).map fun line => line.2.drawn line.1 ++ "\n") ∧
      (∀ depth field, (depth, field) ∈ outline 0 schema ↔ schema.Shows depth field) ∧
        ((∀ depth field, schema.Shows depth field → field.Legible) →
          readTree? schema.tree = some (pruned schema) ∧
            ∀ other : Schema, (∀ depth field, other.Shows depth field → field.Legible) →
              (other.tree = schema.tree ↔ pruned other = pruned schema)) := by
  refine ⟨tree_eq schema, fun _ _ => mem_outline_iff, fun h => ⟨readTree?_tree h, fun other hother => ⟨fun htree => ?_,
    fun hpruned => ?_⟩⟩⟩
  · have hread := readTree?_tree hother
    rw [htree, readTree?_tree h] at hread
    exact (Option.some.inj hread).symm
  · rw [← tree_pruned other, hpruned, tree_pruned]

end Schema

/-! ### Names that look like the tree -/

namespace Disguised

/-- A record whose name begins with a group and ends with a colon, and a field in it whose name holds a mark, whose type
holds parentheses and a colon, and which has a field for all that it is no record. -/
def schema : Schema :=
  [⟨" |   a:", "RECORD", .repeated,
      [⟨"b |-- c", "NUMERIC (10): x", .required, [⟨"hidden", "INTEGER", .nullable, []⟩]⟩]⟩,
    ⟨"", "STRUCT", .nullable, []⟩]

/-- What is shown of it. -/
def shown : Schema :=
  [⟨" |   a:", "RECORD", .repeated, [⟨"b |-- c", "NUMERIC (10): x", .required, []⟩]⟩, ⟨"", "STRUCT", .nullable, []⟩]

/-- The shape is found in its tree but for the hidden field, which makes no difference to the tree. -/
theorem tree_outline_schema :
    schema.tree =
        "root\n |--  |   a:: RECORD (REPEATED)\n |    |-- b |-- c: NUMERIC (10): x (REQUIRED)\n"
          ++ " |-- : STRUCT (NULLABLE)\n" ∧
      Schema.readTree? schema.tree = some shown ∧ shown.tree = schema.tree := by
  have hlegible : ∀ depth field, schema.Shows depth field → field.Legible := by
    have hlines : ∀ line ∈ Schema.outline 0 schema, line.2.Legible := by decide
    exact fun depth field hshown => hlines (depth, field) (Schema.mem_outline_iff.mpr hshown)
  have hshown : ∀ depth field, shown.Shows depth field → field.Legible := by
    have hlines : ∀ line ∈ Schema.outline 0 shown, line.2.Legible := by decide
    exact fun depth field hshown => hlines (depth, field) (Schema.mem_outline_iff.mpr hshown)
  obtain ⟨-, -, hread⟩ := Schema.tree_outline schema
  obtain ⟨hread, hsame⟩ := hread hlegible
  exact ⟨by decide +kernel, hread, (hsame shown hshown).mpr rfl⟩

end Disguised

end QueryFrames
