import Mathlib.Data.List.Nodup
import Mathlib.Data.List.Perm.Basic
import QueryFrames.Frame.ColumnSplit

/-! Two lists of columns matched by name. The parts of a split are columns of the two lists in their order, and both
select lists are the columns of the union with a null wherever a side lacks one, so each value stands under its own
column. This needs no assumption on the lists; if neither repeats a column, the union repeats none. -/

namespace QueryFrames

namespace ColumnSplit

variable {left right columns : List String} {column : String}

/-! ### The parts -/

@[simp] theorem mem_leftOnly : column ∈ (ofColumns left right).leftOnly ↔ column ∈ left ∧ column ∉ right := by
  simp [ofColumns]

@[simp] theorem mem_common : column ∈ (ofColumns left right).common ↔ column ∈ left ∧ column ∈ right := by
  simp [ofColumns]

@[simp] theorem mem_rightOnly : column ∈ (ofColumns left right).rightOnly ↔ column ∈ right ∧ column ∉ left := by
  simp [ofColumns]

theorem perm_left (left right : List String) :
    ((ofColumns left right).leftOnly ++ (ofColumns left right).common).Perm left := by
  have hparts := List.filter_append_perm (fun column => decide (column ∈ right)) left
  simp only [← decide_not] at hparts
  exact List.perm_append_comm.trans hparts

theorem mem_output : column ∈ (ofColumns left right).output ↔ column ∈ left ∨ column ∈ right := by
  rw [output, List.mem_append, (perm_left left right).mem_iff, mem_rightOnly, or_and_left]
  exact and_iff_left (em _)

theorem count_rightOnly (left right : List String) (column : String) :
    (ofColumns left right).rightOnly.count column = if column ∈ left then 0 else right.count column := by
  split
  · next hleft => exact List.count_eq_zero.mpr fun hmem => (mem_rightOnly.mp hmem).2 hleft
  · next hleft => exact List.count_filter (decide_eq_true hleft)

/-- The parts are columns of the two lists in their order, and every column is in the part that it belongs to. -/
structure Parts (split : ColumnSplit) (left right : List String) : Prop where
  perm_left : (split.leftOnly ++ split.common).Perm left
  leftOnly_sublist : split.leftOnly.Sublist left
  common_sublist : split.common.Sublist left
  leftOnly_lacking : ∀ column ∈ split.leftOnly, column ∉ right
  common_shared : ∀ column ∈ split.common, column ∈ right
  rightOnly_sublist : split.rightOnly.Sublist right
  count_rightOnly : ∀ column, split.rightOnly.count column = if column ∈ left then 0 else right.count column

theorem parts_ofColumns (left right : List String) : (ofColumns left right).Parts left right where
  perm_left := perm_left left right
  leftOnly_sublist := List.filter_sublist
  common_sublist := List.filter_sublist
  leftOnly_lacking _ hmem := (mem_leftOnly.mp hmem).2
  common_shared _ hmem := (mem_common.mp hmem).2
  rightOnly_sublist := List.filter_sublist
  count_rightOnly := count_rightOnly left right

/-! ### The select lists -/

/-- A column of a side that has the given ones. -/
def fill (columns : List String) (column : String) : String :=
  if column ∈ columns then column else nullAs column

theorem map_fill_of_mem {part : List String} (h : ∀ column ∈ part, column ∈ columns) : part.map (fill columns) = part :=
  (List.map_congr_left fun column hmem => if_pos (h column hmem)).trans (List.map_id' part)

theorem map_fill_of_not_mem {part : List String} (h : ∀ column ∈ part, column ∉ columns) :
    part.map (fill columns) = part.map nullAs :=
  List.map_congr_left fun column hmem => if_neg (h column hmem)

theorem leftProjection_eq_map (left right : List String) :
    (ofColumns left right).leftProjection = (ofColumns left right).output.map (fill left) := by
  have hleftOnly : (ofColumns left right).leftOnly.map (fill left) = (ofColumns left right).leftOnly :=
    map_fill_of_mem fun _ hmem => (mem_leftOnly.mp hmem).1
  have hcommon : (ofColumns left right).common.map (fill left) = (ofColumns left right).common :=
    map_fill_of_mem fun _ hmem => (mem_common.mp hmem).1
  have hrightOnly : (ofColumns left right).rightOnly.map (fill left) = (ofColumns left right).rightOnly.map nullAs :=
    map_fill_of_not_mem fun _ hmem => (mem_rightOnly.mp hmem).2
  rw [output, List.map_append, List.map_append, hleftOnly, hcommon, hrightOnly]
  rfl

theorem rightProjection_eq_map (left right : List String) :
    (ofColumns left right).rightProjection = (ofColumns left right).output.map (fill right) := by
  have hleftOnly : (ofColumns left right).leftOnly.map (fill right) = (ofColumns left right).leftOnly.map nullAs :=
    map_fill_of_not_mem fun _ hmem => (mem_leftOnly.mp hmem).2
  have hcommon : (ofColumns left right).common.map (fill right) = (ofColumns left right).common :=
    map_fill_of_mem fun _ hmem => (mem_common.mp hmem).2
  have hrightOnly : (ofColumns left right).rightOnly.map (fill right) = (ofColumns left right).rightOnly :=
    map_fill_of_mem fun _ hmem => (mem_rightOnly.mp hmem).1
  rw [output, List.map_append, List.map_append, hleftOnly, hcommon, hrightOnly]
  rfl

/-- A select list of one side: the columns of the union place by place, with a null for each that the side lacks. -/
structure Fills (projection output columns : List String) : Prop where
  length_eq : projection.length = output.length
  getElem?_eq : ∀ (i : Nat) (column : String), output[i]? = some column →
    projection[i]? = some (if column ∈ columns then column else "NULL AS " ++ column)

theorem fills_map (output columns : List String) : Fills (output.map (fill columns)) output columns where
  length_eq := List.length_map _
  getElem?_eq i column h := by
    rw [List.getElem?_map, h]
    rfl

/-! ### Lists without repeats -/

theorem nodup_output (hleft : left.Nodup) (hright : right.Nodup) : (ofColumns left right).output.Nodup := by
  rw [output, List.nodup_append']
  refine ⟨(perm_left left right).nodup_iff.mpr hleft, hright.filter _, fun column hmem hrightOnly => ?_⟩
  exact (mem_rightOnly.mp hrightOnly).2 ((perm_left left right).mem_iff.mp hmem)

theorem perm_right (hleft : left.Nodup) (hright : right.Nodup) :
    ((ofColumns left right).common ++ (ofColumns left right).rightOnly).Perm right := by
  have hnodup := nodup_output hleft hright
  rw [output, List.append_assoc] at hnodup
  refine (List.perm_ext_iff_of_nodup hnodup.of_append_right hright).mpr fun column => ?_
  rw [List.mem_append, mem_common, mem_rightOnly]
  by_cases hleft : column ∈ left <;> simp [hleft]

/-! ### Reconciling -/

theorem isAligned_iff : (ofColumns left right).isAligned = true ↔ ∀ column, column ∈ left ↔ column ∈ right := by
  simp only [isAligned, ofColumns, Bool.and_eq_true, List.isEmpty_iff, List.filter_eq_nil_iff, decide_eq_true_eq,
    not_not]
  exact ⟨fun h column => ⟨h.1 column, h.2 column⟩, fun h => ⟨fun column => (h column).mp, fun column => (h column).mpr⟩⟩

theorem reconcile_of_same (h : ∀ column, column ∈ left ↔ column ∈ right) (allowMissing : Bool) :
    reconcile left right allowMissing = .ok (ofColumns left right) := by
  rw [reconcile, isAligned_iff.mpr h]
  rfl

theorem reconcile_of_different (h : ¬ ∀ column, column ∈ left ↔ column ∈ right) :
    reconcile left right false = .error (.schemaMismatch left right) := by
  have haligned : (ofColumns left right).isAligned = false := Bool.eq_false_iff.mpr (isAligned_iff.not.mpr h)
  rw [reconcile, haligned]
  rfl

theorem reconcile_of_allowMissing (left right : List String) :
    reconcile left right true = .ok (ofColumns left right) := by
  rw [reconcile, Bool.or_true]
  rfl

theorem output_of_same (h : ∀ column, column ∈ left ↔ column ∈ right) : (ofColumns left right).output = left := by
  have hleftOnly : left.filter (· ∉ right) = [] := by
    simpa using fun column => (h column).mp
  have hcommon : left.filter (· ∈ right) = left := by
    simpa using fun column => (h column).mp
  have hrightOnly : right.filter (· ∉ left) = [] := by
    simpa using fun column => (h column).mpr
  rw [output, ofColumns, hleftOnly, hcommon, hrightOnly, List.nil_append, List.append_nil]

theorem output_eq_nil_iff : (ofColumns left right).output = [] ↔ left = [] ∧ right = [] := by
  simp only [List.eq_nil_iff_forall_not_mem, mem_output, not_or, forall_and]

theorem projections_of_same (h : ∀ column, column ∈ left ↔ column ∈ right) :
    (ofColumns left right).leftProjection = left ∧ (ofColumns left right).rightProjection = left := by
  rw [leftProjection_eq_map, rightProjection_eq_map, output_of_same h]
  exact ⟨map_fill_of_mem fun _ hmem => hmem, map_fill_of_mem fun column => (h column).mp⟩

theorem unionFragment_eq_error {first second : String} (h : left = [] ∧ right = []) :
    (ofColumns left right).unionFragment first second = .error (.noColumns "union_by_name") := by
  rw [unionFragment, output_eq_nil_iff.mpr h]
  rfl

theorem exists_unionFragment (h : ¬ (left = [] ∧ right = [])) (first second : String) :
    ∃ fragment, (ofColumns left right).unionFragment first second = .ok fragment := by
  have houtput : ¬ (ofColumns left right).output.isEmpty = true := by
    rwa [List.isEmpty_iff, output_eq_nil_iff]
  exact ⟨_, if_neg houtput⟩

/-- Two lists of columns split into parts that keep their order, and both select lists follow the columns of the union
place by place. Lists that differ as sets are refused unless columns may be missing, and a union needs a column. -/
theorem reconcile_columns (left right : List String) :
    let split := ofColumns left right
    split.Parts left right ∧
      Fills split.leftProjection split.output left ∧ Fills split.rightProjection split.output right ∧
      (∀ column, column ∈ split.output ↔ column ∈ left ∨ column ∈ right) ∧
      (left.Nodup → right.Nodup → split.output.Nodup ∧ (split.common ++ split.rightOnly).Perm right) ∧
      ((∀ column, column ∈ left ↔ column ∈ right) →
        reconcile left right false = .ok split ∧ split.leftProjection = left ∧ split.rightProjection = left) ∧
      (¬ (∀ column, column ∈ left ↔ column ∈ right) →
        reconcile left right false = .error (.schemaMismatch left right)) ∧
      reconcile left right true = .ok split ∧
      ∀ first second,
        (left = [] ∧ right = [] → split.unionFragment first second = .error (.noColumns "union_by_name")) ∧
          (¬ (left = [] ∧ right = []) → ∃ fragment, split.unionFragment first second = .ok fragment) := by
  refine ⟨parts_ofColumns left right, ?_, ?_, fun _ => mem_output, fun hleft hright => ?_, fun h => ?_,
    reconcile_of_different, reconcile_of_allowMissing left right, fun first second => ?_⟩
  · exact leftProjection_eq_map left right ▸ fills_map _ left
  · exact rightProjection_eq_map left right ▸ fills_map _ right
  · exact ⟨nodup_output hleft hright, perm_right hleft hright⟩
  · exact ⟨reconcile_of_same h false, projections_of_same h⟩
  · exact ⟨unionFragment_eq_error, fun h => exists_unionFragment h first second⟩

end ColumnSplit

namespace Columns

def left : List String := ["c", "a", "b"]

def right : List String := ["z", "b", "y", "a"]

/-- Lists that share two of their columns, and lists that differ in their order. -/
theorem reconcile_shuffled :
    ((ColumnSplit.ofColumns left right).output.Nodup ∧
        ((ColumnSplit.ofColumns left right).common ++ (ColumnSplit.ofColumns left right).rightOnly).Perm right ∧
          (ColumnSplit.ofColumns left right).rightProjection[3]? = some "z" ∧
            (ColumnSplit.ofColumns left right).leftProjection[3]? = some "NULL AS z") ∧
      ColumnSplit.reconcile left right false = .error (.schemaMismatch left right) ∧
        (ColumnSplit.ofColumns left left.reverse).rightProjection = left := by
  obtain ⟨-, hleft, hright, -, hnodup, -, hdifferent, -⟩ := ColumnSplit.reconcile_columns left right
  obtain ⟨-, -, -, -, -, hsame, -⟩ := ColumnSplit.reconcile_columns left left.reverse
  have hcolumn : (ColumnSplit.ofColumns left right).output[3]? = some "z" := by decide +kernel
  obtain ⟨houtput, hperm⟩ := hnodup (by decide +kernel) (by decide +kernel)
  refine ⟨⟨houtput, hperm, hright.getElem?_eq 3 "z" hcolumn, hleft.getElem?_eq 3 "z" hcolumn⟩, hdifferent ?_, ?_⟩
  · exact fun h => absurd ((h "c").mp List.mem_cons_self) (by decide +kernel)
  · exact (hsame fun column => List.mem_reverse.symm).2.2

end Columns

end QueryFrames
