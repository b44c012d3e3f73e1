import Mathlib.Data.List.Basic
import QueryFrames.Proofs.Quoting
import QueryFrames.Frame.Statement

/-! The layout of statements, read back line by line. A body is moved right, so the line that closes it is the first
with a parenthesis at its beginning, whatever the body says; what follows is another body if it begins with a comma
and a blank, and the main query otherwise. -/

namespace QueryFrames

namespace Text

theorem not_mem_of_mem_splitOn {c : Char} {text line : List Char} (h : line ∈ text.splitOn c) : c ∉ line := by
  induction text generalizing line with
  | nil =>
      rw [List.splitOn_nil, List.mem_singleton] at h
      rw [h]
      exact List.not_mem_nil
  | cons d rest ih =>
      rw [List.splitOn_cons_eq_if_modifyHead] at h
      split at h
      · rcases List.mem_cons.mp h with rfl | h
        · exact List.not_mem_nil
        · exact ih h
      · next hd =>
          obtain ⟨first, lines, hlines⟩ := List.exists_cons_of_ne_nil (List.splitOn_ne_nil c rest)
          rw [hlines, List.modifyHead_cons] at h
          rw [hlines] at ih
          rcases List.mem_cons.mp h with rfl | h
          · rw [List.mem_cons, not_or]
            exact ⟨fun hc => hd (beq_iff_eq.mpr hc.symm), ih List.mem_cons_self⟩
          · exact ih (List.mem_cons_of_mem _ h)

theorem splitOn_indent (width : Nat) (text : String) :
    (indent width text).toList.splitOn '\n' =
      (text.toList.splitOn '\n').map (List.replicate width ' ' ++ ·) := by
  have hindent : (indent width text).toList =
      ['\n'].intercalate ((text.toList.splitOn '\n').map (List.replicate width ' ' ++ ·)) := by
    simp [indent, lines, Function.comp_def]
  rw [hindent, List.splitOn_intercalate]
  · intro line hline
    obtain ⟨piece, hpiece, rfl⟩ := List.mem_map.mp hline
    simpa using not_mem_of_mem_splitOn hpiece
  · simp [List.splitOn_ne_nil]

/-- Lines put back together. -/
def joinLines (lines : List (List Char)) : String :=
  String.ofList (['\n'].intercalate lines)

theorem joinLines_splitOn (text : String) : joinLines (text.toList.splitOn '\n') = text := by
  rw [joinLines, List.intercalate_splitOn, String.ofList_toList]

end Text

/-! ### The reader -/

/-- The name in a line that opens a body: it stands between a given beginning and the opening parenthesis, quoted
as the dialect quotes it. -/
def Dialect.headerName? (dialect : Dialect) (start line : List Char) : Option String := do
  let rest ← start.isPrefixOf? line
  if dialect.foldsCase then (" AS (".toList.isSuffixOf? rest).map String.ofList
  else
    let (name, rest) ← dialect.quotes.read rest
    if rest = " AS (".toList then some (String.ofList name) else none

/-- How far a reader of lines has come: between bodies, or inside one of a name with some of its lines read. -/
inductive LineReader where
  | between
  | inside (name : String) (read : List (List Char))

/-- The rest of a statement from the lines that are left. -/
def LineReader.read (dialect : Dialect) : LineReader → List (List Char) → Option Statement
  | between, [] => none
  | between, line :: rest =>
    if ", ".toList <+: line then do
      let name ← dialect.headerName? ", ".toList line
      (inside name []).read dialect rest
    else some ⟨[], Text.joinLines (line :: rest)⟩
  | inside _ _, [] => none
  | inside name read, line :: rest =>
    if line = ")".toList then
      (between.read dialect rest).map fun statement => ⟨⟨name, Text.joinLines read⟩ :: statement.ctes, statement.main⟩
    else do
      let line ← "  ".toList.isPrefixOf? line
      (inside name (read ++ [line])).read dialect rest

/-- The statement whose text is given, if it has named bodies. -/
def Statement.read? (dialect : Dialect) (text : String) : Option Statement :=
  match text.toList.splitOn '\n' with
  | [] => none
  | line :: rest => do
    let name ← dialect.headerName? "WITH ".toList line
    (LineReader.inside name []).read dialect rest

/-! ### Reading back what is rendered -/

variable {dialect : Dialect}

theorem Dialect.headerName?_cteName (dialect : Dialect) (start : List Char) (name : String) :
    dialect.headerName? start (start ++ ((dialect.cteName name).toList ++ " AS (".toList)) = some name := by
  have hstart : start.isPrefixOf? (start ++ ((dialect.cteName name).toList ++ " AS (".toList)) = _ :=
    List.isPrefixOf?_eq_some_iff_append_eq.mpr rfl
  rw [headerName?, hstart, Option.bind_eq_bind, Option.bind_some]
  cases hfolds : dialect.foldsCase with
  | true =>
      have hname : " AS (".toList.isSuffixOf? ((dialect.cteName name).toList ++ " AS (".toList) = _ :=
        List.isSuffixOf?_eq_some_iff_append_eq.mpr rfl
      rw [if_pos rfl, hname, cteName, hfolds, if_pos rfl, Option.map_some, String.ofList_toList]
  | false =>
      have hrest : " AS (".toList.head? ≠ some dialect.quotes.closing := by cases dialect <;> decide
      rw [if_neg Bool.false_ne_true, cteName, hfolds, if_neg Bool.false_ne_true, quoteIdentifier,
        Quotes.read_quote name hrest, Option.bind_eq_bind, Option.bind_some]
      dsimp only
      rw [if_pos rfl, String.ofList_toList]

theorem Dialect.newline_not_mem_cteName {name : String} (hname : '\n' ∉ name.toList) :
    '\n' ∉ (dialect.cteName name).toList := by
  rw [cteName]
  split
  · exact hname
  · have hquotes : '\n' ≠ dialect.quotes.opening ∧ '\n' ≠ dialect.quotes.closing := by cases dialect <;> decide
    have hescape : '\n' ∉ dialect.quotes.escape name.toList := by
      intro h
      obtain ⟨c, hc, h⟩ := List.mem_flatMap.mp h
      have : '\n' = c := by
        split at h <;> simpa using h
      exact hname (this ▸ hc)
    simp [quoteIdentifier, hquotes, hescape]

/-- The lines of a named body that something stands in front of and behind. -/
theorem Cte.splitOn_render {cte : Cte} (hname : '\n' ∉ cte.name.toList) {start : List Char} (hstart : '\n' ∉ start)
    (rest : List Char) :
    (start ++ ((cte.render dialect).toList ++ '\n' :: rest)).splitOn '\n' =
      (start ++ ((dialect.cteName cte.name).toList ++ " AS (".toList)) ::
        ((cte.body.toList.splitOn '\n').map ("  ".toList ++ ·) ++ ")".toList :: rest.splitOn '\n') := by
  have hlayout : start ++ ((cte.render dialect).toList ++ '\n' :: rest) =
      start ++ ((dialect.cteName cte.name).toList ++ " AS (".toList) ++
        '\n' :: ((Text.indent 2 cte.body).toList ++ '\n' :: (")".toList ++ '\n' :: rest)) := by
    simp [render]
  have hheader : '\n' ∉ start ++ ((dialect.cteName cte.name).toList ++ " AS (".toList) := by
    simp [hstart, Dialect.newline_not_mem_cteName hname]
  have hclosing : '\n' ∉ ")".toList := by decide
  rw [hlayout, List.splitOn_append_cons_self, List.splitOn_append_cons_self, List.splitOn_append_cons_self,
    List.splitOn_eq_singleton hheader, List.splitOn_eq_singleton hclosing, Text.splitOn_indent]
  rfl

namespace LineReader

/-- The lines of a body are read without the blanks in front of them, up to the parenthesis. -/
theorem read_inside (name : String) (read lines rest : List (List Char)) :
    (inside name read).read dialect (lines.map ("  ".toList ++ ·) ++ ")".toList :: rest) =
      (between.read dialect rest).map fun statement =>
        ⟨⟨name, Text.joinLines (read ++ lines)⟩ :: statement.ctes, statement.main⟩ := by
  induction lines generalizing read with
  | nil =>
      rw [List.map_nil, List.nil_append, LineReader.read, if_pos rfl, List.append_nil]
  | cons line lines ih =>
      have hline : "  ".toList ++ line ≠ ")".toList := by simp
      have hblanks : "  ".toList.isPrefixOf? ("  ".toList ++ line) = some line :=
        List.isPrefixOf?_eq_some_iff_append_eq.mpr rfl
      rw [List.map_cons, List.cons_append, LineReader.read, if_neg hline, hblanks, Option.bind_eq_bind,
        Option.bind_some, ih, List.append_assoc, List.singleton_append]

theorem read_main {main : String} (hmain : ¬ ", ".toList <+: main.toList) :
    between.read dialect (main.toList.splitOn '\n') = some ⟨[], main⟩ := by
  have hjoin := Text.joinLines_splitOn main
  obtain ⟨line, rest, hlines⟩ := List.exists_cons_of_ne_nil (List.splitOn_ne_nil '\n' main.toList)
  rw [hlines] at hjoin ⊢
  have hline : ¬ ", ".toList <+: line := by
    intro h
    have hmain' := congrArg String.toList hjoin
    rw [Text.joinLines, String.toList_ofList] at hmain'
    cases rest with
    | nil => exact hmain (hmain' ▸ by simpa [List.intercalate] using h)
    | cons second rest =>
        rw [List.intercalate_cons_cons, List.append_assoc] at hmain'
        exact hmain (hmain' ▸ h.trans (List.prefix_append _ _))
  rw [LineReader.read, if_neg hline, hjoin]

end LineReader

/-- What a statement says behind the first of its named bodies. -/
def Statement.renderRest (dialect : Dialect) (ctes : List Cte) (main : String) : List Char :=
  match ctes with
  | [] => main.toList
  | cte :: ctes => ", ".toList ++ ((cte.render dialect).toList ++ '\n' :: renderRest dialect ctes main)

theorem Statement.toList_render (cte : Cte) (ctes : List Cte) (main : String) :
    (Statement.render dialect ⟨cte :: ctes, main⟩).toList =
      "WITH ".toList ++ ((cte.render dialect).toList ++ '\n' :: renderRest dialect ctes main) := by
  have hrest : ∀ cte : Cte, (String.intercalate "\n, " ((cte :: ctes).map (Cte.render dialect))).toList ++
      '\n' :: main.toList = (cte.render dialect).toList ++ '\n' :: renderRest dialect ctes main := by
    induction ctes with
    | nil => simp [renderRest]
    | cons second ctes ih =>
        intro cte
        have hsecond := ih second
        simp only [List.map_cons, String.toList_intercalate] at hsecond
        simp [renderRest, ← hsecond]
  rw [render_of_ne_nil (List.cons_ne_nil _ _), String.toList_append, String.toList_append, String.toList_append,
    List.append_assoc, List.append_assoc, ← hrest cte]
  rfl

/-- The statements that can be read back: those with named bodies, on whose names no line ends, and with a main
query that cannot be taken for a further body. -/
structure Statement.Readable (statement : Statement) : Prop where
  ctes : statement.ctes ≠ []
  names : ∀ cte ∈ statement.ctes, '\n' ∉ cte.name.toList
  main : ¬ ", ".toList <+: statement.main.toList

theorem LineReader.read_renderRest {ctes : List Cte} {main : String}
    (hnames : ∀ cte ∈ ctes, '\n' ∉ cte.name.toList) (hmain : ¬ ", ".toList <+: main.toList) :
    between.read dialect ((Statement.renderRest dialect ctes main).splitOn '\n') = some ⟨ctes, main⟩ := by
  induction ctes with
  | nil => exact read_main hmain
  | cons cte ctes ih =>
      have hcte := hnames cte List.mem_cons_self
      have hrest := ih fun other hother => hnames other (List.mem_cons_of_mem _ hother)
      rw [Statement.renderRest, Cte.splitOn_render hcte (by decide), LineReader.read,
        if_pos (List.prefix_append _ _), Dialect.headerName?_cteName, Option.bind_eq_bind, Option.bind_some,
        read_inside, hrest, List.nil_append, Text.joinLines_splitOn]
      rfl

theorem Statement.read?_render {statement : Statement} (h : statement.Readable) :
    Statement.read? dialect (statement.render dialect) = some statement := by
  obtain ⟨ctes, main⟩ := statement
  obtain ⟨cte, ctes, rfl⟩ := List.exists_cons_of_ne_nil h.ctes
  have hcte := h.names cte List.mem_cons_self
  have hrest : LineReader.between.read dialect _ = _ :=
    LineReader.read_renderRest (fun other hother => h.names other (List.mem_cons_of_mem _ hother)) h.main
  rw [Statement.read?, toList_render, Cte.splitOn_render hcte (by decide)]
  dsimp only
  rw [Dialect.headerName?_cteName, Option.bind_eq_bind, Option.bind_some, LineReader.read_inside, hrest,
    List.nil_append, Text.joinLines_splitOn]
  rfl

namespace Frame

variable {frame : Frame} {views : List (String × Frame)}

theorem readable_statement (hctes : views ≠ [] ∨ frame.dependencies ≠ [])
    (hnames : ∀ name ∈ Keyed.keys views ++ Keyed.keys frame.dependencies, '\n' ∉ name.toList)
    (hmain : ¬ ", ".toList <+: frame.fragment.toList) : (frame.statement dialect views).Readable where
  ctes h := by
    obtain ⟨hviews, hdependencies⟩ := List.append_eq_nil_iff.mp h
    exact hctes.elim (absurd (List.map_eq_nil_iff.mp hviews)) (absurd (List.map_eq_nil_iff.mp hdependencies))
  names cte hcte := by
    rcases List.mem_append.mp hcte with hcte | hcte
    · obtain ⟨entry, hentry, rfl⟩ := List.mem_map.mp hcte
      exact hnames _ (List.mem_append_left _ (List.mem_map_of_mem hentry))
    · obtain ⟨entry, hentry, rfl⟩ := List.mem_map.mp hcte
      exact hnames _ (List.mem_append_right _ (List.mem_map_of_mem hentry))
  main := hmain

/-- Where no line ends within a name and no main query begins as a further body would, the text of a frame's
statement gives back the views, each with its own statement, the dependencies, each with its fragment, and the main
query. The statement of a view with dependencies gives back these in the same way. -/
theorem read?_compileWith (dialect : Dialect) (views : List (String × Frame)) (frame : Frame)
    (hctes : views ≠ [] ∨ frame.dependencies ≠ [])
    (hnames : ∀ name ∈ Keyed.keys views ++ Keyed.keys frame.dependencies, '\n' ∉ name.toList)
    (hviewnames : ∀ entry ∈ views, ∀ name ∈ Keyed.keys entry.2.dependencies, '\n' ∉ name.toList)
    (hmain : ¬ ", ".toList <+: frame.fragment.toList)
    (hviewmains : ∀ entry ∈ views, ¬ ", ".toList <+: entry.2.fragment.toList) :
    Statement.read? dialect (frame.compileWith dialect views) =
        some ⟨views.map (fun (name, view) => ⟨name, view.compileStandalone dialect⟩) ++
          frame.dependencies.map (fun (name, dependency) => ⟨name, dependency.fragment⟩), frame.fragment⟩ ∧
      ∀ entry ∈ views, entry.2.dependencies ≠ [] →
        Statement.read? dialect (entry.2.compileStandalone dialect) =
          some ⟨entry.2.dependencies.map (fun (name, dependency) => ⟨name, dependency.fragment⟩),
            entry.2.fragment⟩ := by
  refine ⟨Statement.read?_render (readable_statement hctes hnames hmain), fun entry hentry hdependencies => ?_⟩
  have hreadable : (entry.2.statement dialect []).Readable :=
    readable_statement (Or.inr hdependencies) (hviewnames entry hentry) (hviewmains entry hentry)
  exact Statement.read?_render hreadable

end Frame

/-! ### Fragments that look like the layout -/

namespace Tangled

def base : Frame := ⟨⟨0, 0⟩, "base", ")\n, `x` AS (\n", []⟩

def view : Frame := ⟨⟨0, 1⟩, "w", "SELECT ')\n, ' FROM base", [("base", base)]⟩

def frame : Frame := ⟨⟨0, 2⟩, "q", "SELECT 1\n)\n, `y` AS (", [("a``b", base)]⟩

theorem read?_frame :
    Statement.read? .bigQuery (frame.compileWith .bigQuery [("v`", view)]) =
        some ⟨[⟨"v`", "WITH `base` AS (\n  )\n  , `x` AS (\n  \n)\nSELECT ')\n, ' FROM base"⟩,
          ⟨"a``b", ")\n, `x` AS (\n"⟩], "SELECT 1\n)\n, `y` AS ("⟩ ∧
      Statement.read? .bigQuery (view.compileStandalone .bigQuery) =
        some ⟨[⟨"base", ")\n, `x` AS (\n"⟩], "SELECT ')\n, ' FROM base"⟩ := by
  have hread := Frame.read?_compileWith .bigQuery [("v`", view)] frame (Or.inl (List.cons_ne_nil _ _))
    (by decide) (by decide) (by decide) (by decide)
  have hview : view.compileStandalone .bigQuery =
      "WITH `base` AS (\n  )\n  , `x` AS (\n  \n)\nSELECT ')\n, ' FROM base" := by
    decide +kernel
  refine ⟨hread.1.trans ?_, hread.2 ("v`", view) List.mem_cons_self (List.cons_ne_nil _ _)⟩
  rw [List.map_singleton]
  dsimp only
  rw [hview]
  rfl

end Tangled

end QueryFrames
