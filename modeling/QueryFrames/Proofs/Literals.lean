import Mathlib.Data.List.Basic
import QueryFrames.Proofs.Naming

/-! String literals under indentation. A body is moved right line by line, wherever its lines are broken, so a
literal that goes over several lines comes out with blanks at the beginning of each but the first. Nothing else
happens to literals: the named bodies of a statement hold those of the texts they render, one for one and in
order, and they are the same ones exactly if none of them holds a line feed. -/

namespace QueryFrames

namespace Text

/-! ### Moving lines to the right -/

/-- Every line but the first moved right by `width` blanks. -/
def hangChars (width : Nat) (cs : List Char) : List Char :=
  cs.flatMap fun c => if c = '\n' then '\n' :: List.replicate width ' ' else [c]

def hang (width : Nat) (text : String) : String :=
  String.ofList (hangChars width text.toList)

variable {width : Nat} {c : Char} {cs : List Char}

@[simp] theorem hangChars_nil : hangChars width [] = [] :=
  rfl

theorem hangChars_newline : hangChars width ('\n' :: cs) = '\n' :: (List.replicate width ' ' ++ hangChars width cs) :=
  rfl

theorem hangChars_cons (hc : c ≠ '\n') : hangChars width (c :: cs) = c :: hangChars width cs := by
  simp [hangChars, hc]

theorem hangChars_append (first second : List Char) :
    hangChars width (first ++ second) = hangChars width first ++ hangChars width second :=
  List.flatMap_append

theorem length_le_hangChars (cs : List Char) : cs.length ≤ (hangChars width cs).length := by
  induction cs with
  | nil => exact Nat.le_refl _
  | cons c rest ih =>
      by_cases hc : c = '\n'
      · subst hc
        simp [hangChars_newline]
        omega
      · simpa [hangChars_cons hc] using ih

theorem hangChars_eq_self_iff (hwidth : width ≠ 0) : hangChars width cs = cs ↔ '\n' ∉ cs := by
  induction cs with
  | nil => simp
  | cons c rest ih =>
      by_cases hc : c = '\n'
      · subst hc
        have hlength : rest.length ≤ (hangChars width rest).length := length_le_hangChars rest
        have hne : List.replicate width ' ' ++ hangChars width rest ≠ rest := by
          intro h
          have := congrArg List.length h
          simp only [List.length_append, List.length_replicate] at this
          omega
        simp [hangChars_newline, hne]
      · simp [hangChars_cons hc, ih, Ne.symm hc]

theorem hang_eq_self_iff (hwidth : width ≠ 0) {text : String} : hang width text = text ↔ '\n' ∉ text.toList := by
  rw [← hangChars_eq_self_iff hwidth, hang, String.ext_iff, String.toList_ofList]

theorem intercalate_map_splitOn (width : Nat) (cs : List Char) :
    List.intercalate ['\n'] ((cs.splitOn '\n').map (List.replicate width ' ' ++ ·)) =
      List.replicate width ' ' ++ hangChars width cs := by
  induction cs with
  | nil => simp [List.intercalate]
  | cons c rest ih =>
      obtain ⟨line, lines, hlines⟩ := List.exists_cons_of_ne_nil (List.splitOn_ne_nil '\n' rest)
      rw [hlines] at ih
      by_cases hc : c = '\n'
      · subst hc
        rw [List.splitOn_cons_eq_if_modifyHead, if_pos (by simp), hlines, hangChars_newline, ← ih]
        simp [List.intercalate_cons_cons]
      · rw [List.splitOn_cons_eq_if_modifyHead, if_neg (by simpa using hc), hlines, hangChars_cons hc]
        cases lines with
        | nil => simpa [List.intercalate] using ih
        | cons second lines => simpa [List.intercalate_cons_cons] using ih

theorem indent_eq (width : Nat) (text : String) : indent width text = blanks width ++ hang width text := by
  apply String.ext
  have hlines : (lines text).map (fun line => (blanks width ++ line).toList) =
      (text.toList.splitOn '\n').map (List.replicate width ' ' ++ ·) := by
    simp [lines, Function.comp_def]
  rw [indent, String.toList_intercalate, List.map_map, Function.comp_def, hlines]
  simpa [hang] using intercalate_map_splitOn width text.toList

/-! ### Literals -/

/-- How far a scan for literals has come: outside of them, inside one of which some characters are read, or behind
a quote in one, which closes it unless another quote follows. -/
inductive LiteralScan where
  | outside
  | inside (read : List Char)
  | behindQuote (read : List Char)

namespace LiteralScan

/-- The literals that a scan finds in what is left of a text. One that is not closed is none. -/
def literals : LiteralScan → List Char → List (List Char)
  | outside, [] => []
  | inside _, [] => []
  | behindQuote read, [] => [read]
  | outside, c :: rest => if c = '\'' then (inside []).literals rest else outside.literals rest
  | inside read, c :: rest =>
    if c = '\'' then (behindQuote read).literals rest else (inside (read ++ [c])).literals rest
  | behindQuote read, c :: rest =>
    if c = '\'' then (inside (read ++ ['\''])).literals rest else read :: outside.literals rest

/-- A scan that has read the same characters, their lines moved right. -/
def hang (width : Nat) : LiteralScan → LiteralScan
  | outside => outside
  | inside read => inside (hangChars width read)
  | behindQuote read => behindQuote (hangChars width read)

theorem literals_outside_blanks (cs : List Char) :
    outside.literals (List.replicate width ' ' ++ cs) = outside.literals cs := by
  induction width with
  | zero => rfl
  | succ width ih => simpa [List.replicate_succ, literals] using ih

theorem literals_inside_blanks (read cs : List Char) :
    (inside read).literals (List.replicate width ' ' ++ cs) =
      (inside (read ++ List.replicate width ' ')).literals cs := by
  induction width generalizing read with
  | zero => simp
  | succ width ih => simpa [List.replicate_succ, literals] using ih (read ++ [' '])

/-- A scan of the moved text finds the moved literals. -/
theorem literals_hang (scan : LiteralScan) (cs : List Char) :
    (scan.hang width).literals (hangChars width cs) = (scan.literals cs).map (hangChars width) := by
  induction cs generalizing scan with
  | nil => cases scan <;> rfl
  | cons c rest ih =>
      by_cases hc : c = '\n'
      · subst hc
        rw [hangChars_newline]
        cases scan with
        | outside => simpa [hang, literals, literals_outside_blanks] using ih outside
        | inside read =>
            have hrest := ih (inside (read ++ ['\n']))
            simpa [hang, literals, literals_inside_blanks, hangChars_append, hangChars] using hrest
        | behindQuote read => simpa [hang, literals, literals_outside_blanks] using ih outside
      · have hsingle : hangChars width [c] = [c] := hangChars_cons hc
        rw [hangChars_cons hc]
        by_cases hquote : c = '\''
        · subst hquote
          cases scan with
          | outside => simpa [hang, literals] using ih (inside [])
          | inside read => simpa [hang, literals] using ih (behindQuote read)
          | behindQuote read =>
              simpa [hang, literals, hangChars_append, hsingle] using ih (inside (read ++ ['\'']))
        · cases scan with
          | outside => simpa [hang, literals, hquote] using ih outside
          | inside read => simpa [hang, literals, hquote, hangChars_append, hsingle] using ih (inside (read ++ [c]))
          | behindQuote read => simpa [hang, literals, hquote] using ih outside

end LiteralScan

/-- The string literals of a text in their order, without the quotes around them and with one quote for each that
is doubled. -/
def literals (text : String) : List String :=
  (LiteralScan.outside.literals text.toList).map String.ofList

theorem literals_indent (width : Nat) (text : String) :
    literals (indent width text) = (literals text).map (hang width) := by
  have hscan : LiteralScan.outside.literals (hangChars width text.toList) = _ :=
    LiteralScan.literals_hang .outside text.toList
  simp [literals, indent_eq, hang, LiteralScan.literals_outside_blanks, hscan]

theorem literals_indent_eq_iff (hwidth : width ≠ 0) (text : String) :
    literals (indent width text) = literals text ↔ ∀ literal ∈ literals text, '\n' ∉ literal.toList := by
  have hmap : (literals text).map (hang width) = (literals text).map id ↔
      ∀ literal ∈ literals text, hang width literal = literal :=
    List.map_eq_map_iff
  rw [List.map_id] at hmap
  rw [literals_indent, hmap]
  exact forall₂_congr fun literal _ => hang_eq_self_iff hwidth

end Text

/-! ### Named bodies -/

/-- The named bodies of a frame's statement are those of the views, each with its own statement, and those of the
dependencies, each with its fragment. In the text of the statement each holds the literals of what it renders,
with their lines moved right; these are the same ones exactly if none of them holds a line feed. -/
theorem Workspace.literals_ctes {σ : Type} (workspace : Workspace σ) (frame : Frame) :
    (workspace.statement frame).ctes =
        ((workspace.session frame.id.session).views.entries.map fun (name, view) =>
            ⟨name, view.compileStandalone (workspace.session frame.id.session).dialect⟩) ++
          frame.dependencies.map (fun (name, dependency) => ⟨name, dependency.fragment⟩) ∧
      ∀ cte ∈ (workspace.statement frame).ctes, ∃ body,
        cte.render (workspace.session frame.id.session).dialect =
            (workspace.session frame.id.session).dialect.cteName cte.name ++ " AS (\n" ++ body ++ "\n)" ∧
          Text.literals body = (Text.literals cte.body).map (Text.hang 2) ∧
            (Text.literals body = Text.literals cte.body ↔
              ∀ literal ∈ Text.literals cte.body, '\n' ∉ literal.toList) := by
  refine ⟨rfl, fun cte _ => ⟨Text.indent 2 cte.body, rfl, ?_, ?_⟩⟩
  · exact Text.literals_indent 2 cte.body
  · exact Text.literals_indent_eq_iff (Nat.succ_ne_zero 1) cte.body

/-! ### A query with a literal, and a filter of it -/

namespace Quoted

def source (query : String) : Derivation := ⟨⟨⟨0, 0⟩, "t", query, []⟩, true, []⟩

def filtered (query : String) : Derivation :=
  ⟨⟨⟨0, 1⟩, "_default_alias_1", Fragment.filter "t" "TRUE", [("t", (source query).frame)]⟩, false, [source query]⟩

def history (query : String) : History Unit :=
  History.opened.perform (.sqlAs 0 query "t") []
    |>.perform (.filter (source query).frame "TRUE") [source query]

theorem reached (query : String) : History.Reached Executor.absent () (fun _ _ => True) (history query) := by
  refine .perform (.perform .opened ?_ trivial) ?_ trivial
  · exact .of_builder (s := 0) Nat.zero_lt_one rfl rfl
  · exact .of_frame (List.mem_of_getElem? (i := 0) rfl) rfl rfl

/-- A literal on one line, with a quote in it, comes through. -/
theorem literals_of_one_line :
    ∃ body, Cte.render .bigQuery ⟨"t", "SELECT 'it''s'\nAS s"⟩ = "`t` AS (\n" ++ body ++ "\n)" ∧
      Text.literals body = ["it's"] := by
  have hmem : (⟨"t", "SELECT 'it''s'\nAS s"⟩ : Cte) ∈
      ((history "SELECT 'it''s'\nAS s").workspace.statement (filtered "SELECT 'it''s'\nAS s").frame).ctes :=
    List.mem_cons_self
  obtain ⟨body, hbody, -, hiff⟩ :=
    ((history "SELECT 'it''s'\nAS s").workspace.literals_ctes (filtered "SELECT 'it''s'\nAS s").frame).2 _ hmem
  have hliterals : Text.literals "SELECT 'it''s'\nAS s" = ["it's"] := by decide
  refine ⟨body, hbody, ?_⟩
  rw [← hliterals]
  exact hiff.mpr (by rw [hliterals]; decide)

/-- A literal over two lines gets two blanks more. -/
theorem exists_changed_literal :
    ∃ (history : History Unit) (d : Derivation) (cte : Cte) (body : String),
      History.Reached Executor.absent () (fun _ _ => True) history ∧ d ∈ history.made ∧
        cte ∈ (history.workspace.statement d.frame).ctes ∧
          cte.render .bigQuery = "`t` AS (\n" ++ body ++ "\n)" ∧
            Text.literals cte.body = ["a\nb"] ∧ Text.literals body = ["a\n  b"] :=
  ⟨history "SELECT 'a\nb' AS s", filtered "SELECT 'a\nb' AS s", ⟨"t", "SELECT 'a\nb' AS s"⟩,
    "  SELECT 'a\n  b' AS s", reached _, List.mem_of_getElem? (i := 1) rfl, List.mem_cons_self, by decide, by decide,
    by decide⟩

end Quoted

end QueryFrames
