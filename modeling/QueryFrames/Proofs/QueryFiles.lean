import Mathlib.Data.List.DropRight
import QueryFrames.CommandLine.Run

/-! Queries as they are read from files. The white space at the end of a file is dropped and then the semicolons that
are left there, each of them once. A query therefore keeps a terminator exactly if white space parts the last semicolons
of the file from one before them, and it can be trimmed further exactly if white space stands right before them. -/

namespace QueryFrames

namespace Text

/-- White space only. -/
def Blank (chars : List Char) : Prop :=
  ∀ c ∈ chars, isWhiteSpace c = true

/-- A text ends in a semicolon, white space behind it aside. -/
def Terminated (text : List Char) : Prop :=
  ∃ before blanks, Blank blanks ∧ text = before ++ [';'] ++ blanks

/-- Behind its beginning, a text has white space, then semicolons, and then at most more white space. -/
def PartedAfter (before text : List Char) : Prop :=
  ∃ gap semicolons blanks, (gap ≠ [] ∧ Blank gap) ∧ (semicolons ≠ [] ∧ ∀ c ∈ semicolons, c = ';') ∧ Blank blanks ∧
    text = before ++ gap ++ semicolons ++ blanks

/-- The characters of a file that its query consists of. -/
def trimQueryChars (text : List Char) : List Char :=
  dropEndWhile (· = ';') (dropEndWhile isWhiteSpace text)

theorem toList_trimQuery (text : String) : (trimQuery text).toList = trimQueryChars text.toList :=
  String.toList_ofList

variable {c : Char} {back before text : List Char} {test : Char → Bool}

/-! ### What is dropped at an end -/

theorem dropEndWhile_split (test : Char → Bool) (text : List Char) :
    ∃ dropped, (∀ c ∈ dropped, test c = true) ∧ text = dropEndWhile test text ++ dropped :=
  ⟨text.rtakeWhile test, fun _ => List.mem_rtakeWhile_imp, List.rdropWhile_append_rtakeWhile.symm⟩

theorem not_of_getLast?_dropEndWhile (hlast : (dropEndWhile test text).getLast? = some c) : ¬ test c = true := by
  have hne : dropEndWhile test text ≠ [] := by
    intro hnil
    rw [hnil] at hlast
    cases hlast
  rw [List.getLast?_eq_some_getLast hne] at hlast
  cases hlast
  exact List.rdropWhile_last_not test text hne

theorem dropEndWhile_of_end (hne : back ≠ []) (hback : ∀ c ∈ back, ¬ test c = true) (before : List Char) :
    dropEndWhile test (before ++ back) = before ++ back := by
  obtain ⟨front, last, rfl⟩ := back.eq_nil_or_concat'.resolve_left hne
  rw [← List.append_assoc]
  exact dropEndWhile_concat (hback last List.mem_concat_self) (before ++ front)

theorem length_trimQueryChars_append_le (hback : Blank back) (before : List Char) :
    (trimQueryChars (before ++ back)).length ≤ before.length := by
  rw [trimQueryChars, dropEndWhile_append hback]
  exact ((List.rdropWhile_prefix _ _).trans (List.rdropWhile_prefix _ _)).length_le

/-! ### What is left of a text -/

theorem trimQueryChars_split (text : List Char) :
    ∃ semicolons blanks, (∀ c ∈ semicolons, c = ';') ∧ Blank blanks ∧
      text = trimQueryChars text ++ semicolons ++ blanks ∧
        (semicolons = [] → ∀ c, (trimQueryChars text).getLast? = some c → ¬ isWhiteSpace c = true) := by
  obtain ⟨blanks, hblanks, htext⟩ := dropEndWhile_split isWhiteSpace text
  obtain ⟨semicolons, hsemicolons, hfront⟩ := dropEndWhile_split (· = ';') (dropEndWhile isWhiteSpace text)
  refine ⟨semicolons, blanks, fun c hc => of_decide_eq_true (hsemicolons c hc), hblanks, ?_, ?_⟩
  · rw [trimQueryChars, ← hfront, ← htext]
  · rintro rfl c hlast
    rw [trimQueryChars, ← List.append_nil (dropEndWhile _ (dropEndWhile _ _)), ← hfront] at hlast
    exact not_of_getLast?_dropEndWhile hlast

theorem getLast?_trimQueryChars (text : List Char) : (trimQueryChars text).getLast? ≠ some ';' :=
  fun hlast => not_of_getLast?_dropEndWhile hlast rfl

/-- White space that parts the last semicolons of a text from its beginning is what the query of the text ends in. -/
theorem partedAfter_iff :
    PartedAfter before text ↔ ∃ gap, gap ≠ [] ∧ Blank gap ∧ trimQueryChars text = before ++ gap := by
  constructor
  · rintro ⟨gap, semicolons, blanks, ⟨hne, hgap⟩, ⟨hsome, hsemicolons⟩, hblanks, rfl⟩
    have hvisible : ∀ c ∈ semicolons, ¬ isWhiteSpace c = true := by
      intro c hc
      rw [hsemicolons c hc]
      decide
    have hother : ∀ c ∈ gap, ¬ decide (c = ';') = true := by
      intro c hc heq
      have hblank := hgap c hc
      rw [of_decide_eq_true heq] at hblank
      exact absurd hblank (by decide)
    refine ⟨gap, hne, hgap, ?_⟩
    calc trimQueryChars (before ++ gap ++ semicolons ++ blanks)
        = dropEndWhile (· = ';') (before ++ gap ++ semicolons) := by
          rw [trimQueryChars, dropEndWhile_append hblanks, dropEndWhile_of_end hsome hvisible]
      _ = dropEndWhile (· = ';') (before ++ gap) :=
          dropEndWhile_append (fun c hc => decide_eq_true (hsemicolons c hc)) _
      _ = before ++ gap := dropEndWhile_of_end hne hother before
  · rintro ⟨gap, hne, hgap, hquery⟩
    obtain ⟨semicolons, blanks, hsemicolons, hblanks, htext, hvisible⟩ := trimQueryChars_split text
    rw [hquery] at htext hvisible
    refine ⟨gap, semicolons, blanks, ⟨hne, hgap⟩, ⟨?_, hsemicolons⟩, hblanks, htext⟩
    -- Without a semicolon behind it, the white space would be dropped as well.
    rintro rfl
    obtain ⟨front, last, rfl⟩ := gap.eq_nil_or_concat'.resolve_left hne
    refine hvisible rfl last ?_ (hgap last List.mem_concat_self)
    rw [← List.append_assoc, List.getLast?_concat]

theorem terminated_trimQueryChars_iff :
    Terminated (trimQueryChars text) ↔ ∃ before, PartedAfter (before ++ [';']) text := by
  constructor
  · rintro ⟨before, gap, hgap, hquery⟩
    refine ⟨before, partedAfter_iff.mpr ⟨gap, ?_, hgap, hquery⟩⟩
    rintro rfl
    refine getLast?_trimQueryChars text ?_
    rw [hquery, List.append_nil, List.getLast?_concat]
  · rintro ⟨before, hparted⟩
    obtain ⟨gap, -, hgap, hquery⟩ := partedAfter_iff.mp hparted
    exact ⟨before, gap, hgap, hquery⟩

theorem trimQueryChars_eq_self_iff :
    trimQueryChars (trimQueryChars text) = trimQueryChars text ↔ ¬ ∃ before, PartedAfter before text := by
  constructor
  · rintro hself ⟨before, hparted⟩
    obtain ⟨gap, hne, hgap, hquery⟩ := partedAfter_iff.mp hparted
    have hle := length_trimQueryChars_append_le hgap before
    rw [← hquery, hself, hquery, List.length_append] at hle
    have hpos := List.length_pos_of_ne_nil hne
    omega
  · intro hnone
    obtain ⟨gap, hgap, hquery⟩ := dropEndWhile_split isWhiteSpace (trimQueryChars text)
    have hnil : gap = [] := by
      by_contra hne
      exact hnone ⟨_, partedAfter_iff.mpr ⟨gap, hne, hgap, hquery⟩⟩
    rw [hnil, List.append_nil] at hquery
    rw [trimQueryChars, ← hquery]
    exact List.rdropWhile_idempotent _ _

end Text

namespace CommandLine

/-- Of every file that can be read, the query is the text without the white space at its end and the semicolons before
it, and it ends in no semicolon. White space aside it does so exactly if the file has white space between a semicolon
and the last ones, and trimming it again changes nothing exactly if the file has no white space right before these. -/
theorem readQuery_end {files : FileTree} {path text : String} (hread : files.readText path = .ok text) :
    ∃ query, readQuery files path = .ok query ∧
      (∃ semicolons blanks, (∀ c ∈ semicolons, c = ';') ∧ Text.Blank blanks ∧
        text.toList = query.toList ++ semicolons ++ blanks ∧
          (semicolons = [] → ∀ c, query.toList.getLast? = some c → ¬ Text.isWhiteSpace c = true)) ∧
        query.toList.getLast? ≠ some ';' ∧
          (Text.Terminated query.toList ↔ ∃ before, Text.PartedAfter (before ++ [';']) text.toList) ∧
            (Text.trimQuery query = query ↔ ¬ ∃ before, Text.PartedAfter before text.toList) := by
  refine ⟨Text.trimQuery text, ?_, ?_⟩
  · rw [readQuery, hread]
    rfl
  · simp only [← String.toList_inj, Text.toList_trimQuery]
    exact ⟨Text.trimQueryChars_split text.toList, Text.getLast?_trimQueryChars text.toList,
      Text.terminated_trimQueryChars_iff, Text.trimQueryChars_eq_self_iff⟩

/-! ### Files with one terminator and with two -/

namespace Terminator

/-- A view and a query that reads it. -/
def files (view : String) : FileTree :=
  ⟨[], [(["v.sql"], .file (Output.encode view)), (["q.sql"], .file (Output.encode "SELECT * FROM v"))]⟩

def job : Job := ⟨.compile, none, ["v=v.sql"], "q.sql", none, 20⟩

/-- One terminator at the end of its line leaves nothing behind. -/
theorem readQuery_one_terminator :
    readQuery (files "SELECT 1 AS id;\n") "v.sql" = .ok "SELECT 1 AS id" ∧
      ¬ Text.Terminated "SELECT 1 AS id".toList := by
  have hread : (files "SELECT 1 AS id;\n").readText "v.sql" = .ok "SELECT 1 AS id;\n" := by decide +kernel
  have hquery : readQuery (files "SELECT 1 AS id;\n") "v.sql" = .ok "SELECT 1 AS id" := by decide +kernel
  obtain ⟨query, heq, -, -, hterminated, hagain⟩ := readQuery_end hread
  cases hquery.symm.trans heq
  refine ⟨hquery, fun h => ?_⟩
  obtain ⟨before, hparted⟩ := hterminated.mp h
  exact hagain.mp (by decide +kernel) ⟨_, hparted⟩

/-- A terminator on a line of its own leaves the one before it, which then stands in the body of the view. -/
theorem exists_terminated_query :
    ∃ query, readQuery (files "SELECT 1 AS id;\n;\n") "v.sql" = .ok query ∧ Text.Terminated query.toList ∧
      Text.trimQuery query ≠ query ∧
        job.compile ⟨[], files "SELECT 1 AS id;\n;\n", none, false⟩ .default =
          .ok "WITH `v` AS (\n  SELECT 1 AS id;\n  \n)\nSELECT * FROM v\n" := by
  refine ⟨"SELECT 1 AS id;\n", by decide +kernel, ?_, by decide +kernel, by decide +kernel⟩
  exact ⟨"SELECT 1 AS id".toList, ['\n'], List.forall_mem_singleton.mpr (by decide), by decide +kernel⟩

end Terminator

end CommandLine

end QueryFrames
