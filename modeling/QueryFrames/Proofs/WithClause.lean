import QueryFrames.Proofs.Naming
import QueryFrames.Proofs.Union
import QueryFrames.Text.Alphanumeric
import QueryFrames.Text.Blank

/-! Statements whose main query brings a `WITH` clause of its own. What an operation makes of other frames begins
with `SELECT`, so only a caller's text can begin with `WITH`, and the frame of such a text depends on nothing. A
`WITH` follows the list of named bodies exactly if such a text is compiled where views are registered; in the
bodies of views it never does. -/

namespace QueryFrames

namespace Text

def isWordChar (c : Char) : Bool :=
  isAlphanumeric c || c = '_'

/-- The word that a text begins with, in capitals, where white space in front of it does not count. -/
def leadingWord (text : String) : String :=
  String.ofList (((text.toList.dropWhile isWhiteSpace).takeWhile isWordChar).map Char.toUpper)

theorem takeWhile_append_of_any {test : Char → Bool} {first : List Char} (second : List Char)
    (h : first.any (!test ·) = true) : (first ++ second).takeWhile test = first.takeWhile test := by
  induction first with
  | nil => cases h
  | cons c rest ih =>
      cases hc : test c with
      | false => simp [hc]
      | true =>
          rw [List.any_cons, hc, Bool.not_true, Bool.false_or] at h
          simp [hc, ih h]

/-- A word that ends within the first of two texts is that of the two together. -/
theorem leadingWord_append {first word : String} (second : String)
    (h : (first.toList.dropWhile isWhiteSpace).any (!isWordChar ·) = true) (hword : leadingWord first = word) :
    leadingWord (first ++ second) = word := by
  have hfirst : first.toList.dropWhile isWhiteSpace ≠ [] := by
    intro hnil
    rw [hnil] at h
    cases h
  rw [← hword, leadingWord, leadingWord, String.toList_append, List.dropWhile_append,
    if_neg (by simpa using hfirst), takeWhile_append_of_any _ h]

/-- A text that goes on behind `SELECT` with a blank or a line feed begins with that word. -/
theorem leadingWord_selecting {first : String} (second : String)
    (h : ∃ front ∈ ["SELECT ", "SELECT\n"], front.toList <+: first.toList) :
    leadingWord (first ++ second) = "SELECT" := by
  have hfronts : ∀ front ∈ ["SELECT ", "SELECT\n"],
      (front.toList.dropWhile isWhiteSpace).any (!isWordChar ·) = true ∧ leadingWord front = "SELECT" := by
    decide +kernel
  obtain ⟨front, hfront, rest, hrest⟩ := h
  obtain ⟨hends, hword⟩ := hfronts front hfront
  have hfirst : first = front ++ String.ofList rest := by
    apply String.ext
    rw [String.toList_append, String.toList_ofList, hrest]
  rw [hfirst, String.append_assoc]
  exact leadingWord_append _ hends hword

end Text

/-! ### Fragments over other frames -/

namespace Fragment

variable (source other : String)

theorem leadingWord_select (columns : List String) : Text.leadingWord (select source columns) = "SELECT" := by
  unfold select
  rw [String.append_assoc, String.append_assoc]
  exact Text.leadingWord_selecting _ (by decide)

theorem leadingWord_filter (predicate : String) : Text.leadingWord (filter source predicate) = "SELECT" := by
  unfold filter
  rw [String.append_assoc, String.append_assoc]
  exact Text.leadingWord_selecting _ (by decide)

theorem leadingWord_limit (count : Int) : Text.leadingWord (limit source count) = "SELECT" := by
  unfold limit
  rw [String.append_assoc, String.append_assoc]
  exact Text.leadingWord_selecting _ (by decide)

theorem leadingWord_sort (columns : List String) : Text.leadingWord (sort source columns) = "SELECT" := by
  unfold sort
  rw [String.append_assoc, String.append_assoc]
  exact Text.leadingWord_selecting _ (by decide)

theorem leadingWord_withColumn (name expression : String) (replace : Bool) :
    Text.leadingWord (withColumn source name expression replace) = "SELECT" := by
  unfold withColumn
  split
  · simp only [String.append_assoc]
    exact Text.leadingWord_selecting _ (by decide)
  · simp only [String.append_assoc]
    exact Text.leadingWord_selecting _ (by decide)

theorem leadingWord_union : Text.leadingWord (union source other) = "SELECT" := by
  unfold union
  rw [String.append_assoc, String.append_assoc]
  exact Text.leadingWord_selecting _ (by decide)

theorem leadingWord_count : Text.leadingWord (count source) = "SELECT" :=
  Text.leadingWord_selecting source (by decide)

theorem leadingWord_unionFragment {split : ColumnSplit} {fragment : String}
    (h : split.unionFragment source other = .ok fragment) : Text.leadingWord fragment = "SELECT" := by
  unfold ColumnSplit.unionFragment at h
  split at h
  · cases h
  · cases h
    unfold ColumnSplit.selectFrom
    simp only [String.append_assoc]
    exact Text.leadingWord_selecting _ (by decide)

end Fragment

/-! ### What operations make -/

namespace Workspace

variable {σ : Type} {workspace : Workspace σ} {operation : Operation} {sources : List Derivation} {d : Derivation}

theorem compose_eq_ok {α : Type} {made : Except FrameError (α × Session)} {value : α} :
    (workspace.compose made).1 = .ok value ↔ ∃ session, made = .ok (value, session) := by
  rcases made with error | ⟨found, session⟩ <;> simp [compose]

theorem mem_answered :
    d ∈ workspace.answered operation sources ↔
      ∃ frame, (workspace.perform operation).1 = .ok (.frame frame) ∧
        d = ⟨frame, operation.choosesAlias, operation.reads sources⟩ := by
  rw [answered]
  split
  · next frame h => simp [h]
  · next h => simpa using fun frame hframe => absurd hframe (h frame)

theorem leadingWord_shapeQuery {source : Derivation} (hd : d ∈ workspace.shapeQuery source) :
    Text.leadingWord d.frame.fragment = "SELECT" := by
  rw [shapeQuery] at hd
  split at hd
  · cases hd
  · rw [List.mem_singleton.mp hd]
    exact Fragment.leadingWord_limit _ _

/-- What is made only to be submitted selects from the frame that it is made of. -/
theorem leadingWord_submitted (hd : d ∈ workspace.submitted operation sources) :
    Text.leadingWord d.frame.fragment = "SELECT" := by
  rw [submitted.eq_def] at hd
  split at hd
  · exact leadingWord_shapeQuery hd
  · exact leadingWord_shapeQuery hd
  · exact leadingWord_shapeQuery hd
  · split at hd
    · next made _ hlimit =>
        obtain ⟨-, hderived⟩ := Session.limit_eq_ok.mp hlimit
        obtain ⟨rfl, -⟩ := Prod.mk.inj hderived
        rw [List.mem_singleton.mp hd]
        exact Fragment.leadingWord_limit _ _
    · cases hd
  · rw [List.mem_singleton.mp hd]
    exact Fragment.leadingWord_count _
  · split at hd
    · cases hd
    · rcases List.mem_append.mp hd with hd | hd
      · exact leadingWord_shapeQuery hd
      · split at hd
        · cases hd
        · exact leadingWord_shapeQuery hd
  · cases hd

theorem not_answers_frame {α : Type} {form : α → Answer} {outcome : Outcome σ α} {frame : Frame}
    (hform : ∀ value, form value ≠ .frame frame) : (answer form outcome).1 ≠ .ok (.frame frame) := by
  obtain ⟨error | value, after⟩ := outcome
  · intro h
    cases h
  · intro h
    exact hform value (Except.ok.inj h)

/-- What an operation answers reads nothing, or selects from the frames that it is made of, or has the text of the
frame that it renames. -/
theorem fragment_answered (hframes : operation.frames = sources.map (·.frame))
    (hd : d ∈ workspace.answered operation sources) :
    d.parents = [] ∨ Text.leadingWord d.frame.fragment = "SELECT" ∨
      ∃ e ∈ sources, d.parents = e.parents ∧ d.frame.fragment = e.frame.fragment := by
  obtain ⟨frame, hframe, rfl⟩ := mem_answered.mp hd
  cases operation with
  | sql builder query => exact Or.inl (List.map_eq_nil_iff.mp hframes.symm)
  | sqlAs builder query name => exact Or.inl (List.map_eq_nil_iff.mp hframes.symm)
  | table builder path => exact Or.inl (List.map_eq_nil_iff.mp hframes.symm)
  | registerView builder name view => exact absurd hframe (not_answers_frame fun _ h => nomatch h)
  | createTempView view name => exact absurd hframe (not_answers_frame fun _ h => nomatch h)
  | aliasAs source name =>
      obtain ⟨e, rfl, rfl⟩ := List.map_eq_singleton_iff.mp hframes.symm
      obtain ⟨session, hmade⟩ := compose_eq_ok.mp (perform_eq_ok_frame.mp hframe)
      obtain ⟨rfl, -⟩ := Prod.mk.inj (Session.aliasAs_eq_ok.mp hmade).2
      exact Or.inr (Or.inr ⟨e, List.mem_singleton_self e, List.flatMap_singleton .., rfl⟩)
  | select source columns =>
      obtain ⟨session, hmade⟩ := compose_eq_ok.mp (perform_eq_ok_frame.mp hframe)
      obtain ⟨rfl, -⟩ := Prod.mk.inj (Session.select_eq_ok.mp hmade).2
      exact Or.inr (Or.inl (Fragment.leadingWord_select _ _))
  | filter source predicate =>
      obtain ⟨session, hmade⟩ := compose_eq_ok.mp (perform_eq_ok_frame.mp hframe)
      obtain ⟨rfl, -⟩ := Prod.mk.inj (Except.ok.inj hmade)
      exact Or.inr (Or.inl (Fragment.leadingWord_filter _ _))
  | limit source count =>
      obtain ⟨session, hmade⟩ := compose_eq_ok.mp (perform_eq_ok_frame.mp hframe)
      obtain ⟨rfl, -⟩ := Prod.mk.inj (Session.limit_eq_ok.mp hmade).2
      exact Or.inr (Or.inl (Fragment.leadingWord_limit _ _))
  | sort source columns =>
      obtain ⟨session, hmade⟩ := compose_eq_ok.mp (perform_eq_ok_frame.mp hframe)
      obtain ⟨rfl, -⟩ := Prod.mk.inj (Session.sort_eq_ok.mp hmade).2
      exact Or.inr (Or.inl (Fragment.leadingWord_sort _ _))
  | withColumn source name expression replace =>
      obtain ⟨session, hmade⟩ := compose_eq_ok.mp (perform_eq_ok_frame.mp hframe)
      obtain ⟨rfl, -⟩ := Prod.mk.inj (Except.ok.inj hmade)
      exact Or.inr (Or.inl (Fragment.leadingWord_withColumn _ _ _ _))
  | union left right =>
      obtain ⟨session, hmade⟩ := compose_eq_ok.mp (perform_eq_ok_frame.mp hframe)
      obtain ⟨rfl, -⟩ := Prod.mk.inj (Session.combine_eq_ok.mp hmade).2
      exact Or.inr (Or.inl (Fragment.leadingWord_union _ _))
  | unionByName left right allowMissing =>
      obtain ⟨-, split, hfragment⟩ := unionByName_eq_ok (perform_eq_ok_frame.mp hframe)
      exact Or.inr (Or.inl (Fragment.leadingWord_unionFragment _ _ hfragment))
  | schema source => exact absurd hframe (not_answers_frame fun _ h => nomatch h)
  | columns source => exact absurd hframe (not_answers_frame fun _ h => nomatch h)
  | treeString source => exact absurd hframe (not_answers_frame fun _ h => nomatch h)
  | collect source => exact absurd hframe (not_answers_frame fun _ h => nomatch h)
  | take source count => exact absurd hframe (not_answers_frame fun _ h => nomatch h)
  | count source => exact absurd hframe (not_answers_frame fun _ h => nomatch h)

end Workspace

/-! ### Named bodies in front of a `WITH` -/

/-- The main query begins with `WITH` and stands behind named bodies. -/
def Statement.RepeatsWith (statement : Statement) : Prop :=
  statement.ctes ≠ [] ∧ Text.leadingWord statement.main = "WITH"

namespace History

variable {σ : Type} {executor : Executor σ} {state : σ} {admits : History σ → Operation → Prop}
  {history after : History σ} {registers : History σ → Nat × String → Prop} {d : Derivation}

/-- A frame that reads others selects from them. -/
theorem Reached.leadingWord_of_parents (hrun : Reached executor state admits history) :
    ∀ d ∈ history.made, d.parents ≠ [] → Text.leadingWord d.frame.fragment = "SELECT" := by
  induction hrun with
  | start => exact fun d hd => nomatch hd
  | openSession dialect connected _ ih => exact ih
  | perform _ hoffers _ ih =>
      intro d hd hparents
      rw [History.perform, List.mem_append, List.mem_append] at hd
      rcases hd with (hd | hd) | hd
      · exact ih d hd hparents
      · exact Workspace.leadingWord_submitted hd
      · rcases Workspace.fragment_answered hoffers.frames hd with hroot | hselect | ⟨e, he, heparents, hfragment⟩
        · exact absurd hroot hparents
        · exact hselect
        · rw [hfragment]
          exact ih e (hoffers.made e he) (heparents ▸ hparents)

/-- Every view is a frame of the history. -/
def ViewsMade (history : History σ) : Prop :=
  ∀ s, ∀ entry ∈ (history.session s).views.entries, ∃ d ∈ history.made, d.frame = entry.2

theorem ViewsMade.put (h : history.ViewsMade) {made : List Derivation} (hmade : history.made ⊆ made)
    (hc : history.Consistent) {s : Nat} (hs : s < history.workspace.sessions.length) {session : Session}
    (hid : session.id = (history.session s).id)
    (hviews : ∀ entry ∈ session.views.entries, ∃ d ∈ made, d.frame = entry.2) :
    (History.mk (history.workspace.put session) made).ViewsMade := by
  intro t entry hentry
  change entry ∈ ((history.put session).session t).views.entries at hentry
  rw [session_put_eq session hc hs hid] at hentry
  split at hentry
  · exact hviews entry hentry
  · obtain ⟨d, hd, hframe⟩ := h t entry hentry
    exact ⟨d, hmade hd, hframe⟩

theorem Change.viewsMade (hchange : Change registers history after) (hc : history.Consistent)
    (h : history.ViewsMade) : after.ViewsMade := by
  have hkept : ∀ (s : Nat) (made : List Derivation), history.made ⊆ made →
      ∀ entry ∈ (history.session s).views.entries, ∃ d ∈ made, d.frame = entry.2 := by
    intro s made hmade entry hentry
    obtain ⟨d, hd, hframe⟩ := h s entry hentry
    exact ⟨d, hmade hd, hframe⟩
  cases hchange with
  | derive hs hmade fragment =>
      exact h.put (List.subset_append_left _ _) hc hs rfl (hkept _ _ (List.subset_append_left _ _))
  | choose hs hname fragment =>
      exact h.put (List.subset_append_left _ _) hc hs rfl (hkept _ _ (List.subset_append_left _ _))
  | rename hd hname =>
      exact h.put (List.subset_append_left _ _) hc (hc.session_lt _ hd) rfl
        (hkept _ _ (List.subset_append_left _ _))
  | register hs hd hregisters hname =>
      refine h.put (List.Subset.refl _) hc hs rfl (List.forall_mem_append.mpr ⟨hkept _ _ (List.Subset.refl _), ?_⟩)
      exact List.forall_mem_singleton.mpr ⟨_, hd, rfl⟩
  | remember hs frame schema => exact h.put (List.Subset.refl _) hc hs rfl (hkept _ _ (List.Subset.refl _))
  | submit call state => exact h

theorem Reached.viewsMade (hrun : Reached executor state admits history) : history.ViewsMade := by
  apply hrun.change_induction
  · exact fun s entry hentry => nomatch hentry
  · intro history dialect connected _ h s entry hentry
    rw [session, Workspace.session_openSession] at hentry
    split at hentry
    · cases hentry
    · exact h s entry hentry
  · exact fun hc hchange h => hchange.viewsMade hc h

theorem Reached.not_repeatsWith_standalone (hrun : Reached executor state admits history) (hd : d ∈ history.made) :
    ¬ d.frame.standalone.RepeatsWith := by
  rintro ⟨hctes, hmain⟩
  have hparents : d.parents ≠ [] := by
    intro hparents
    apply hctes
    rw [Frame.standalone, Frame.dependencyCtes, hrun.consistent.lineage d hd, hparents]
    rfl
  have hselect := hrun.leadingWord_of_parents d hd hparents
  rw [Frame.standalone, hselect] at hmain
  exact absurd hmain (by decide)

/-- A statement has a `WITH` behind its named bodies exactly if its frame is made of no other, by a caller who wrote
that `WITH`, in a session that has views. The bodies of these views have none. -/
theorem Reached.repeatsWith_iff (hrun : Reached executor state admits history) (hd : d ∈ history.made) :
    ((history.workspace.statement d.frame).RepeatsWith ↔
        d.parents = [] ∧ Text.leadingWord d.frame.fragment = "WITH" ∧ history.views d.frame.id.session ≠ []) ∧
      ((history.workspace.statement d.frame).ctes ≠ [] →
        ∃ bodies, history.workspace.compile d.frame = "WITH " ++ bodies ++ "\n" ++ d.frame.fragment) ∧
        ∀ entry ∈ (history.session d.frame.id.session).views.entries, ¬ entry.2.standalone.RepeatsWith := by
  refine ⟨?_, fun hctes => ⟨_, Statement.render_of_ne_nil hctes⟩, ?_⟩
  · constructor
    · rintro ⟨hctes, hmain⟩
      have hparents : d.parents = [] := by
        by_contra hparents
        have hselect := hrun.leadingWord_of_parents d hd hparents
        exact absurd (hselect.symm.trans hmain) (by decide)
      refine ⟨hparents, hmain, fun hviews => hctes ?_⟩
      have hentries : (history.session d.frame.id.session).views.entries = [] := List.map_eq_nil_iff.mp hviews
      have hdependencies : d.frame.dependencies = [] := by
        rw [hrun.consistent.lineage d hd, hparents]
        rfl
      change (Frame.viewCtes _ (history.session d.frame.id.session).views.entries ++ d.frame.dependencyCtes) = []
      rw [hentries, Frame.dependencyCtes, hdependencies]
      rfl
    · rintro ⟨-, hmain, hviews⟩
      refine ⟨fun hctes => hviews ?_, hmain⟩
      have hnames : Frame.viewCtes _ (history.session d.frame.id.session).views.entries = [] :=
        (List.append_eq_nil_iff.mp hctes).1
      exact List.map_eq_nil_iff.mpr (List.map_eq_nil_iff.mp hnames)
  · intro entry hentry
    obtain ⟨e, he, hframe⟩ := hrun.viewsMade _ entry hentry
    rw [← hframe]
    exact hrun.not_repeatsWith_standalone he

end History

/-! ### A query with its own `WITH`, and a view -/

namespace OwnWith

def view : Derivation := ⟨⟨⟨0, 0⟩, "_default_alias_1", "SELECT 1 AS id", []⟩, false, []⟩

def root : Derivation :=
  ⟨⟨⟨0, 1⟩, "_default_alias_2", "WITH x AS (SELECT 2 AS id) SELECT * FROM x", []⟩, false, []⟩

def filtered : Derivation :=
  ⟨⟨⟨0, 2⟩, "_default_alias_3", Fragment.filter "_default_alias_2" "id > 0", [("_default_alias_2", root.frame)]⟩,
    false, [root]⟩

def history : History Unit :=
  History.opened.perform (.sql 0 "SELECT 1 AS id") []
    |>.perform (.registerView 0 "v" view.frame) [view]
    |>.perform (.sql 0 "WITH x AS (SELECT 2 AS id) SELECT * FROM x") []
    |>.perform (.filter root.frame "id > 0") [root]

theorem reached : History.Reached Executor.absent () (fun _ _ => True) history := by
  refine .perform (.perform (.perform (.perform .opened ?_ trivial) ?_ trivial) ?_ trivial) ?_ trivial
  · exact .of_builder (s := 0) (by decide) rfl rfl
  · exact ⟨rfl, List.forall_mem_singleton.mpr (List.mem_of_getElem? (i := 0) rfl), by rintro _ ⟨⟩; decide⟩
  · exact .of_builder (s := 0) (by decide) rfl rfl
  · exact .of_frame (List.mem_of_getElem? (i := 1) rfl) rfl rfl

/-- Below a filter the `WITH` of the query stands inside a named body. -/
theorem filtered_not_repeatsWith :
    ¬ (history.workspace.statement filtered.frame).RepeatsWith ∧
      history.workspace.compile filtered.frame =
        "WITH `v` AS (\n  SELECT 1 AS id\n)\n, `_default_alias_2` AS (\n" ++
          "  WITH x AS (SELECT 2 AS id) SELECT * FROM x\n)\nSELECT *\nFROM _default_alias_2\nWHERE id > 0" := by
  have hmade : filtered ∈ history.made := List.mem_of_getElem? (i := 2) rfl
  refine ⟨fun hrepeats => ?_, by decide +kernel⟩
  obtain ⟨hparents, -, -⟩ := (reached.repeatsWith_iff hmade).1.mp hrepeats
  cases hparents

/-- On its own the query has the view in front of its `WITH`. -/
theorem exists_repeatsWith :
    ∃ (history : History Unit) (d : Derivation),
      History.Reached Executor.absent () (fun _ _ => True) history ∧ d ∈ history.made ∧
        (∀ e ∈ history.made, e.parents = [] → Text.leadingWord e.frame.fragment ∈ ["SELECT", "WITH"]) ∧
          (history.workspace.statement d.frame).RepeatsWith ∧
            history.workspace.compile d.frame =
              "WITH `v` AS (\n  SELECT 1 AS id\n)\nWITH x AS (SELECT 2 AS id) SELECT * FROM x" := by
  have hword : Text.leadingWord root.frame.fragment = "WITH" := by decide +kernel
  refine ⟨history, root, reached, List.mem_of_getElem? (i := 1) rfl, ?_, ⟨List.cons_ne_nil _ _, hword⟩, by decide⟩
  intro e he hparents
  have hmade : history.made = [view, root, filtered] := rfl
  rw [hmade] at he
  simp only [List.mem_cons, List.not_mem_nil, or_false] at he
  rcases he with rfl | rfl | rfl
  · exact List.mem_cons.mpr (Or.inl (by decide +kernel))
  · exact List.mem_cons_of_mem _ (List.mem_singleton.mpr hword)
  · cases hparents

end OwnWith

end QueryFrames
