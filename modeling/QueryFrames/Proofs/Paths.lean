import Mathlib.Data.List.Basic
import QueryFrames.Proofs.OutsideQuotes
import QueryFrames.Session.Basic

/-! Dotted paths. A path loses the quotes of its dialect before its parts are quoted, so each part reads back as it is,
and nothing but the dots between parts and asterisks on their own stands outside quotes. Quoting a path again takes
out what was put in. -/

namespace QueryFrames

namespace Text

theorem mem_intercalate_of_mem {separator : List Char} {parts : List (List Char)} {part : List Char} {c : Char}
    (hpart : part ∈ parts) (hc : c ∈ part) : c ∈ separator.intercalate parts := by
  induction parts with
  | nil => cases hpart
  | cons first parts ih =>
      cases parts with
      | nil => rwa [List.intercalate_singleton, ← List.mem_singleton.mp hpart]
      | cons second parts =>
          rw [List.intercalate_cons_cons, List.mem_append, List.mem_append]
          rcases List.mem_cons.mp hpart with rfl | hpart
          · exact Or.inl (Or.inl hc)
          · exact Or.inr (ih hpart)

theorem filter_intercalate {keeps : Char → Bool} {separator : Char} (hseparator : keeps separator = true)
    (parts : List (List Char)) :
    ([separator].intercalate parts).filter keeps = [separator].intercalate (parts.map (·.filter keeps)) := by
  induction parts with
  | nil => rfl
  | cons first parts ih =>
      cases parts with
      | nil => simp
      | cons second parts =>
          rw [List.intercalate_cons_cons, List.filter_append, List.filter_append, ih,
            List.filter_cons_of_pos hseparator, List.filter_nil]
          simp only [List.map_cons, List.intercalate_cons_cons]

end Text

/-! ### The reader -/

namespace Quotes

variable {quotes : Quotes} {text part rest : List Char}

/-- The part of a path that a text begins with, a bare asterisk or a quoted identifier, and what stands behind it. -/
def readPart (quotes : Quotes) : List Char → Option (List Char × List Char)
  | [] => none
  | c :: rest => if c = '*' then some (['*'], rest) else quotes.read (c :: rest)

theorem length_lt_of_readPart (h : quotes.readPart text = some (part, rest)) : rest.length < text.length := by
  cases text with
  | nil => cases h
  | cons c text =>
      rw [readPart] at h
      split at h
      · cases h
        exact Nat.lt_succ_self _
      · obtain ⟨htext, -⟩ := read_eq_some_iff.mp h
        rw [htext, List.length_append, toList_quote, List.cons_append, List.length_cons]
        omega

/-- The parts of a path that a text consists of, with a dot between each two. -/
def readPath (quotes : Quotes) (text : List Char) : Option (List (List Char)) :=
  match _h : quotes.readPart text with
  | none => none
  | some (part, []) => some [part]
  | some (part, c :: rest) => if c = '.' then (readPath quotes rest).map (part :: ·) else none
termination_by text.length
decreasing_by exact Nat.lt_of_succ_lt (length_lt_of_readPart _h)

theorem readPath_last (h : quotes.readPart text = some (part, [])) : quotes.readPath text = some [part] := by
  rw [readPath]
  split <;> simp_all

theorem readPath_dot (h : quotes.readPart text = some (part, '.' :: rest)) :
    quotes.readPath text = (quotes.readPath rest).map (part :: ·) := by
  rw [readPath]
  split <;> simp_all

end Quotes

/-! ### Quoted paths -/

namespace Dialect

variable {dialect : Dialect} {part : String} {rest : List Char}

theorem plain_dot (dialect : Dialect) : QuoteScan.Plain dialect.quotings '.' := by
  cases dialect <;> decide

theorem plain_star (dialect : Dialect) : QuoteScan.Plain dialect.quotings '*' := by
  cases dialect <;> decide

/-- Whether a character stays in a path whose quotes are taken out. -/
def keeps (dialect : Dialect) (c : Char) : Bool :=
  c ≠ dialect.quotes.opening ∧ c ≠ dialect.quotes.closing

theorem toList_strip (dialect : Dialect) (path : String) :
    (dialect.quotes.strip path).toList = path.toList.filter dialect.keeps := by
  rw [Quotes.strip, String.toList_ofList]
  rfl

theorem toList_quotePath (dialect : Dialect) (path : String) :
    (dialect.quotePath path).toList =
      ['.'].intercalate ((dialect.pathParts path).map fun part => (dialect.quotePart part).toList) := by
  rw [quotePath, String.toList_intercalate, List.map_map]
  rfl

theorem map_toList_pathParts (dialect : Dialect) (path : String) :
    (dialect.pathParts path).map String.toList = (path.toList.filter dialect.keeps).splitOn '.' := by
  rw [pathParts, List.map_map, ← toList_strip]
  simp [Function.comp_def]

theorem pathParts_ne_nil (dialect : Dialect) (path : String) : dialect.pathParts path ≠ [] := by
  rw [pathParts, ne_eq, List.map_eq_nil_iff]
  exact List.splitOn_ne_nil _ _

theorem keeps_of_mem_pathParts {path : String} (hpart : part ∈ dialect.pathParts path) :
    ∀ c ∈ part.toList, dialect.keeps c = true := by
  intro c hc
  have hmem : part.toList ∈ (path.toList.filter dialect.keeps).splitOn '.' := by
    rw [← map_toList_pathParts]
    exact List.mem_map_of_mem hpart
  have hstripped : c ∈ path.toList.filter dialect.keeps := by
    have hjoined : ['.'].intercalate ((path.toList.filter dialect.keeps).splitOn '.') =
        path.toList.filter dialect.keeps :=
      List.intercalate_splitOn '.'
    exact hjoined ▸ Text.mem_intercalate_of_mem hmem hc
  exact (List.mem_filter.mp hstripped).2

/-- What was put around a part is taken out again. -/
theorem filter_quotePart (hpart : ∀ c ∈ part.toList, dialect.keeps c = true) :
    (dialect.quotePart part).toList.filter dialect.keeps = part.toList := by
  have hself : part.toList.filter dialect.keeps = part.toList := List.filter_eq_self.mpr hpart
  rw [quotePart]
  split
  · exact hself
  · have hclosing : dialect.quotes.closing ∉ part.toList := fun h => by simpa [keeps] using hpart _ h
    have hquotes : dialect.keeps dialect.quotes.opening = false ∧ dialect.keeps dialect.quotes.closing = false := by
      simp [keeps]
    rw [quoteIdentifier, Quotes.toList_quote, Quotes.escape_of_not_mem hclosing, List.filter_append,
      List.filter_cons_of_neg (Bool.eq_false_iff.mp hquotes.1), hself,
      List.filter_cons_of_neg (Bool.eq_false_iff.mp hquotes.2), List.filter_nil, List.append_nil]

theorem strip_quotePath (dialect : Dialect) (path : String) :
    dialect.quotes.strip (dialect.quotePath path) = dialect.quotes.strip path := by
  have hdot : dialect.keeps '.' = true := by cases dialect <;> decide
  have hparts : (dialect.pathParts path).map (fun part => (dialect.quotePart part).toList.filter dialect.keeps) =
      (dialect.pathParts path).map String.toList :=
    List.map_congr_left fun part hpart => filter_quotePart (keeps_of_mem_pathParts hpart)
  apply String.ext
  rw [toList_strip, toList_strip, toList_quotePath, Text.filter_intercalate hdot, List.map_map, Function.comp_def,
    hparts, map_toList_pathParts, List.intercalate_splitOn]

theorem quotePath_quotePath (dialect : Dialect) (path : String) :
    dialect.quotePath (dialect.quotePath path) = dialect.quotePath path := by
  have hparts : dialect.pathParts (dialect.quotePath path) = dialect.pathParts path := by
    rw [pathParts, strip_quotePath, pathParts]
  rw [quotePath, hparts, quotePath]

/-! ### Reading a quoted path -/

theorem readPart_quotePart (hrest : rest.head? ≠ some dialect.quotes.closing) (part : String) :
    dialect.quotes.readPart ((dialect.quotePart part).toList ++ rest) = some (part.toList, rest) := by
  rw [quotePart]
  split
  · next hstar =>
      subst hstar
      rfl
  · have hopening : dialect.quotes.opening ≠ '*' := by cases dialect <;> decide
    have hread := Quotes.read_quote part hrest
    rw [Quotes.toList_quote, List.cons_append, List.cons_append] at hread
    rw [quoteIdentifier, Quotes.toList_quote, List.cons_append, List.cons_append, Quotes.readPart, if_neg hopening,
      hread]

theorem readPath_intercalate {parts : List String} (hparts : parts ≠ []) :
    dialect.quotes.readPath (['.'].intercalate (parts.map fun part => (dialect.quotePart part).toList)) =
      some (parts.map String.toList) := by
  induction parts with
  | nil => exact absurd rfl hparts
  | cons part parts ih =>
      cases parts with
      | nil =>
          have hend : ([] : List Char).head? ≠ some dialect.quotes.closing := nofun
          have hpart := readPart_quotePart hend part
          rw [List.append_nil] at hpart
          rw [List.map_singleton, List.intercalate_singleton, Quotes.readPath_last hpart]
          rfl
      | cons second parts =>
          have hdot : dialect.quotes.closing ≠ '.' := by cases dialect <;> decide
          have hrest : ∀ rest : List Char, ('.' :: rest).head? ≠ some dialect.quotes.closing := fun rest h =>
            hdot (Option.some.inj h).symm
          have hread := ih (List.cons_ne_nil _ _)
          rw [List.map_cons] at hread
          rw [List.map_cons, List.map_cons, List.intercalate_cons_cons, List.append_assoc, List.singleton_append,
            Quotes.readPath_dot (readPart_quotePart (hrest _) part), hread]
          rfl

/-! ### What stands outside the quotes of a path -/

/-- What of a part stands outside quotes. -/
def barePart (part : String) : List Char :=
  if part = "*" then ['*'] else []

section

open QuoteScan

theorem bare_quotePart (dialect : Dialect) (part : String) :
    bare dialect.quotings outside (dialect.quotePart part).toList = barePart part ∧
      (after dialect.quotings outside (dialect.quotePart part).toList).settled = outside := by
  rw [quotePart, barePart]
  split
  · next hstar =>
      subst hstar
      have hnext : next dialect.quotings outside '*' = outside := next_plain within_outside dialect.plain_star
      exact ⟨bare_cons_of_outside hnext, congrArg settled hnext⟩
  · rw [quoteIdentifier, bare_quote dialect.find?_quotings, after_quote dialect.find?_quotings]
    exact ⟨rfl, rfl⟩

theorem bare_intercalate (dialect : Dialect) (parts : List String) :
    bare dialect.quotings outside (['.'].intercalate (parts.map fun part => (dialect.quotePart part).toList)) =
      ['.'].intercalate (parts.map barePart) := by
  induction parts with
  | nil => rfl
  | cons part parts ih =>
      obtain ⟨hbare, hafter⟩ := dialect.bare_quotePart part
      cases parts with
      | nil => simpa using hbare
      | cons second parts =>
          have hwithin : (after dialect.quotings outside (dialect.quotePart part).toList).Within dialect.quotings :=
            within_outside.after _
          have hdot : (after dialect.quotings outside (dialect.quotePart part).toList).next dialect.quotings '.' =
              outside :=
            (next_plain hwithin dialect.plain_dot).trans hafter
          simp only [List.map_cons, List.intercalate_cons_cons, List.append_assoc, List.singleton_append] at ih ⊢
          rw [bare_append, hbare, bare_cons_of_outside hdot, ih]

end

end Dialect

/-- A quoted path stays as it is when it is quoted again. A reader finds in it the parts of the path without its quotes,
and what stands outside quotes in the query over a table is the dots of its path and the parts that are asterisks. -/
theorem Dialect.quotePath_parts (dialect : Dialect) (path : String) :
    dialect.quotePath (dialect.quotePath path) = dialect.quotePath path ∧
      dialect.quotes.readPath (dialect.quotePath path).toList =
        some ((dialect.quotes.strip path).toList.splitOn '.') ∧
        ∀ session : Session,
          QuoteScan.bare session.dialect.quotings .outside (session.table path).1.fragment.toList =
            "SELECT * FROM ".toList ++ ['.'].intercalate ((session.dialect.pathParts path).map barePart) := by
  refine ⟨dialect.quotePath_quotePath path, ?_, fun session => ?_⟩
  · rw [Dialect.toList_quotePath, Dialect.readPath_intercalate (Dialect.pathParts_ne_nil dialect path),
      Dialect.map_toList_pathParts, ← Dialect.toList_strip]
  · have hfragment : (session.table path).1.fragment = "SELECT * FROM " ++ session.dialect.quotePath path := rfl
    have hbefore : QuoteScan.bare session.dialect.quotings .outside "SELECT * FROM ".toList =
          "SELECT * FROM ".toList ∧
        QuoteScan.after session.dialect.quotings .outside "SELECT * FROM ".toList = .outside := by
      cases session.dialect <;> decide
    rw [hfragment, String.toList_append, QuoteScan.bare_append, hbefore.1, hbefore.2, Dialect.toList_quotePath,
      Dialect.bare_intercalate]

/-- Quotes that do not fit together, an empty part, and asterisks on their own and in a part. -/
example : Dialect.tSql.quotePath "]a[b..*.c*" = "[ab].[].*.[c*]" := by decide

end QueryFrames
