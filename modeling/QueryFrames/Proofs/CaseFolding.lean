import QueryFrames.Proofs.Freshness

/-! Names up to case. Where a dialect folds bare names, a reference finds every body whose name folds to the same.
Names are compared as they are written, however, when a caller supplies one. Generated aliases stay apart after
folding, since they differ in their digits, so two names of a statement meet only if a caller supplied one of them. -/

namespace QueryFrames

namespace Dialect

/-- What a character of a bare name is looked up as. -/
def foldChar : Dialect → Char → Char
  | postgres => Char.toLower
  | snowflake => Char.toUpper
  | bigQuery | duckDb | tSql => id

/-- What a bare name of ASCII characters is looked up as. -/
def fold (dialect : Dialect) (name : String) : String :=
  String.ofList (name.toList.map dialect.foldChar)

theorem foldChar_of_isDigit (dialect : Dialect) {c : Char} (h : c.isDigit = true) : dialect.foldChar c = c := by
  have hdigit : 48 ≤ c.val ∧ c.val ≤ 57 := by simpa [Char.isDigit] using h
  cases dialect with
  | postgres => exact dif_neg fun hupper => absurd (UInt32.le_trans hupper.1 hdigit.2) (by decide)
  | snowflake => exact dif_neg fun hlower => absurd (UInt32.le_trans hlower.1 hdigit.2) (by decide)
  | bigQuery | duckDb | tSql => rfl

/-- Folding keeps generated aliases apart. -/
theorem fold_name_injective (dialect : Dialect) {first second : Nat}
    (h : dialect.fold (AliasSupply.name first) = dialect.fold (AliasSupply.name second)) : first = second := by
  have hdigits : ∀ number : Nat, (toString number).toList.map dialect.foldChar = (toString number).toList := by
    intro number
    refine (List.map_congr_left fun c hc => dialect.foldChar_of_isDigit ?_).trans (List.map_id _)
    exact Nat.isDigit_of_mem_toDigits (b := 10) (by decide) (by decide) (by simpa using hc)
  have htext := String.ext_iff.mp h
  simp only [fold, AliasSupply.name, String.toList_ofList, String.toList_append, List.map_append,
    List.append_cancel_left_eq, hdigits] at htext
  exact eq_of_toString_eq (String.ext htext)

theorem cteName_of_foldsCase {dialect : Dialect} (hfolds : dialect.foldsCase = true) (name : String) :
    dialect.cteName name = name := by
  rw [cteName, if_pos hfolds]

end Dialect

/-! ### References in a statement -/

namespace Statement

variable {dialect : Dialect} {statement : Statement}

/-- What the names of the bodies are looked up as where bare names are folded. -/
def folded (dialect : Dialect) (statement : Statement) : List String :=
  statement.ctes.map fun cte => dialect.fold (dialect.cteName cte.name)

/-- The bodies that a bare reference finds where bare names are folded. -/
def resolve (dialect : Dialect) (statement : Statement) (reference : String) : List Cte :=
  statement.ctes.filter fun cte => dialect.fold (dialect.cteName cte.name) = dialect.fold reference

theorem folded_eq_map_names (hfolds : dialect.foldsCase = true) (statement : Statement) :
    statement.folded dialect = statement.names.map dialect.fold := by
  rw [folded, names, List.map_map]
  exact List.map_congr_left fun cte _ => congrArg dialect.fold (Dialect.cteName_of_foldsCase hfolds cte.name)

theorem length_resolve (dialect : Dialect) (statement : Statement) (reference : String) :
    (statement.resolve dialect reference).length = (statement.folded dialect).count (dialect.fold reference) := by
  rw [resolve, ← List.countP_eq_length_filter, folded, List.count_eq_countP, List.countP_map]
  rfl

/-- The folded names are distinct exactly if a reference to any body finds that one only. -/
theorem nodup_folded_iff_resolve (hfolds : dialect.foldsCase = true) :
    (statement.folded dialect).Nodup ↔ ∀ cte ∈ statement.ctes, statement.resolve dialect cte.name = [cte] := by
  constructor
  · intro hnodup cte hcte
    have hfilter : (statement.resolve dialect cte.name).Nodup := hnodup.of_map.filter _
    refine List.perm_singleton.mp ((List.perm_ext_iff_of_nodup hfilter (List.nodup_singleton cte)).mpr fun other => ?_)
    rw [resolve, List.mem_filter, List.mem_singleton, decide_eq_true_eq]
    constructor
    · rintro ⟨hother, heq⟩
      rw [← Dialect.cteName_of_foldsCase hfolds cte.name] at heq
      exact List.inj_on_of_nodup_map hnodup hother hcte heq
    · rintro rfl
      exact ⟨hcte, congrArg dialect.fold (Dialect.cteName_of_foldsCase hfolds other.name)⟩
  · intro hresolve
    refine List.nodup_iff_count_le_one.mpr fun key => ?_
    by_cases hkey : key ∈ statement.folded dialect
    · obtain ⟨cte, hcte, rfl⟩ := List.mem_map.mp hkey
      rw [Dialect.cteName_of_foldsCase hfolds, ← length_resolve, hresolve cte hcte]
      exact Nat.le_refl 1
    · rw [List.count_eq_zero.mpr hkey]
      exact Nat.zero_le 1

end Statement

namespace History

variable {σ : Type} {executor : Executor σ} {state : σ} {admits : History σ → Operation → Prop}
  {history : History σ} {d e : Derivation} {name : String}

/-- A name of a statement that no caller supplied was generated. -/
theorem Reached.generated_of_not_mem_supplied (hrun : Reached executor state admits history) (hd : d ∈ history.made)
    (hname : name ∈ (history.workspace.statement d.frame).names)
    (hsupplied : name ∉ history.suppliedNames d.frame.id.session) : ∃ n, name = AliasSupply.name n := by
  rw [suppliedNames, List.mem_append, not_or] at hsupplied
  rw [Workspace.statement, Frame.names_statement, List.mem_append] at hname
  obtain ⟨node, hnode⟩ := Keyed.exists_of_mem_keys (hname.resolve_left hsupplied.1)
  obtain ⟨e, he, rfl, rfl⟩ := (hrun.consistent.faithful d hd).exists_ancestor hnode
  obtain ⟨hmade, hsession⟩ := hrun.consistent.ancestor_made he hd
  have hgenerated : e.chosen = false :=
    Bool.eq_false_iff.mpr fun hchosen => hsupplied.2 (hsession ▸ mem_chosenAliases hmade hchosen)
  obtain ⟨n, -, heq⟩ := hrun.named.generated e hmade hgenerated
  exact ⟨n, heq⟩

theorem Reached.exists_cte_of_ancestor (hrun : Reached executor state admits history) (hd : d ∈ history.made)
    (he : e.Ancestor d) :
    ∃ cte ∈ (history.workspace.statement d.frame).ctes, cte.name = e.frame.name := by
  obtain ⟨node, hnode⟩ := Keyed.exists_of_mem_keys ((hrun.consistent.faithful d hd).ancestor_mem_keys he)
  exact ⟨⟨e.frame.name, node.fragment⟩, List.mem_append_right _ (List.mem_map_of_mem hnode), rfl⟩

/-- Where bare names are folded, the names of a frame's statement stay distinct exactly if they are so as written and
none that a caller supplied differs from another in case only. Then, and only then, a reference to any body, among them
those of all frames that this one reads, finds that body alone. -/
theorem Reached.nodup_folded_iff (hrun : Reached executor state admits history) (hd : d ∈ history.made)
    (hfolds : (history.session d.frame.id.session).dialect.foldsCase = true) :
    let dialect := (history.session d.frame.id.session).dialect
    let statement := history.workspace.statement d.frame
    ((statement.folded dialect).Nodup ↔
        statement.names.Nodup ∧
          ∀ name ∈ statement.names, name ∈ history.suppliedNames d.frame.id.session →
            ∀ other ∈ statement.names, other ≠ name → dialect.fold other ≠ dialect.fold name) ∧
      ((statement.folded dialect).Nodup ↔ ∀ cte ∈ statement.ctes, statement.resolve dialect cte.name = [cte]) ∧
        ∀ e : Derivation, e.Ancestor d → ∃ cte ∈ statement.ctes, cte.name = e.frame.name := by
  refine ⟨?_, Statement.nodup_folded_iff_resolve hfolds, fun e => hrun.exists_cte_of_ancestor hd⟩
  rw [Statement.folded_eq_map_names hfolds]
  constructor
  · intro hnodup
    refine ⟨hnodup.of_map, fun name hname _ other hother hne heq => hne ?_⟩
    exact List.inj_on_of_nodup_map hnodup hother hname heq
  · rintro ⟨hnodup, hapart⟩
    refine hnodup.map_on fun first hfirst second hsecond heq => ?_
    by_contra hne
    -- Neither of the two is supplied, so both were generated.
    obtain ⟨n, rfl⟩ := hrun.generated_of_not_mem_supplied hd hfirst fun hsupplied =>
      hapart first hfirst hsupplied second hsecond (Ne.symm hne) heq.symm
    obtain ⟨m, rfl⟩ := hrun.generated_of_not_mem_supplied hd hsecond fun hsupplied =>
      hapart second hsecond hsupplied _ hfirst hne heq
    exact hne (congrArg AliasSupply.name (Dialect.fold_name_injective _ heq))

end History

/-! ### A view and a source of mixed case -/

namespace MixedCase

def view : Derivation := ⟨⟨⟨0, 0⟩, "_default_alias_1", "SELECT 1 AS id", []⟩, false, []⟩

def source : Derivation := ⟨⟨⟨0, 1⟩, "t", "SELECT 2 AS id", []⟩, true, []⟩

def filtered : Derivation :=
  ⟨⟨⟨0, 2⟩, "_default_alias_2", Fragment.filter "t" "id > 0", [("t", source.frame)]⟩, false, [source]⟩

def opened : History Unit := ⟨((Workspace.start Executor.absent ()).openSession .postgres false).2, []⟩

/-- A run that registers a view and makes a source, in a dialect that folds bare names to lower case. -/
def before (name : String) : History Unit :=
  opened.perform (.sql 0 "SELECT 1 AS id") []
    |>.perform (.registerView 0 name view.frame) [view]
    |>.perform (.sqlAs 0 "SELECT 2 AS id" "t") []

def history (name : String) : History Unit := (before name).perform (.filter source.frame "id > 0") [source]

theorem reached {name : String} (hsource : source ∈ (before name).made) :
    History.Reached Executor.absent () (fun _ _ => True) (history name) := by
  refine .perform (.perform (.perform (.perform (.openSession .postgres false .start) ?_ trivial) ?_ trivial) ?_
    trivial) (.of_frame hsource rfl rfl) trivial
  · exact .of_builder (s := 0) (by decide) rfl rfl
  · exact ⟨rfl, List.forall_mem_singleton.mpr (List.mem_of_getElem? (i := 0) rfl), by rintro _ ⟨⟩; decide⟩
  · exact .of_builder (s := 0) Nat.zero_lt_one rfl rfl

/-- A view whose name differs from the alias in more than its case. -/
theorem nodup_folded_filtered :
    ((history "V").workspace.statement filtered.frame).folded .postgres = ["v", "t"] ∧
      (((history "V").workspace.statement filtered.frame).folded .postgres).Nodup ∧
        ((history "V").workspace.statement filtered.frame).resolve .postgres "t" = [⟨"t", "SELECT 2 AS id"⟩] := by
  have hmade : filtered ∈ (history "V").made := List.mem_of_getElem? (i := 2) rfl
  obtain ⟨hiff, hresolve, -⟩ := (reached (List.mem_of_getElem? (i := 1) rfl)).nodup_folded_iff hmade rfl
  have hnames : ((history "V").workspace.statement filtered.frame).names = ["V", "t"] := rfl
  have hnodup : (((history "V").workspace.statement filtered.frame).folded .postgres).Nodup := by
    refine hiff.mpr ?_
    rw [hnames]
    decide +kernel
  refine ⟨by decide +kernel, hnodup, hresolve.mp hnodup ⟨"t", "SELECT 2 AS id"⟩ (List.mem_of_getElem? (i := 1) rfl)⟩

/-- A view whose name is the alias in capitals: a reference finds both. -/
theorem exists_ambiguous_reference :
    ∃ (history : History Unit) (d : Derivation),
      History.Reached Executor.absent () (fun _ _ => True) history ∧ d ∈ history.made ∧
        (history.session d.frame.id.session).dialect.foldsCase = true ∧
        (history.workspace.statement d.frame).names.Nodup ∧
          ¬ ((history.workspace.statement d.frame).folded (history.session d.frame.id.session).dialect).Nodup ∧
            (history.workspace.statement d.frame).resolve (history.session d.frame.id.session).dialect "t" =
              [⟨"T", "SELECT 1 AS id"⟩, ⟨"t", "SELECT 2 AS id"⟩] := by
  refine ⟨history "T", filtered, reached (List.mem_of_getElem? (i := 1) rfl), List.mem_of_getElem? (i := 2) rfl, rfl,
    by decide +kernel, by decide +kernel, by decide +kernel⟩

end MixedCase

end QueryFrames
