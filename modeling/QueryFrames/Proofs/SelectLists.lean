import Mathlib.Data.List.TakeWhile
import QueryFrames.Proofs.Literals
import QueryFrames.Proofs.OutsideQuotes
import QueryFrames.Proofs.Reconciliation
import QueryFrames.Proofs.Union
import QueryFrames.Text.Blank

/-! Select lists as they are read. A reader of a list takes the items between its bare commas, without the white space
around them. The columns of a union by name go into its two select lists as they are, so a reader finds them one by one
exactly if no column has a bare comma, none but the last leaves a quote open, and none is broken over lines. -/

namespace QueryFrames

namespace Text

/-! ### White space around a text -/

/-- A text without the white space around it. -/
def trimChars (text : List Char) : List Char :=
  dropEndWhile isWhiteSpace (text.dropWhile isWhiteSpace)

def trim (text : String) : String :=
  String.ofList (trimChars text.toList)

variable {width : Nat} {c : Char} {text lead rest : List Char}

theorem trimChars_append (hlead : ∀ c ∈ lead, isWhiteSpace c = true) (text : List Char) :
    trimChars (lead ++ text) = trimChars text := by
  rw [trimChars, List.dropWhile_append_of_pos hlead, trimChars]

theorem count_dropWhile {test : Char → Bool} (hc : test c = false) (text : List Char) :
    (text.dropWhile test).count c = text.count c := by
  have hrun : (text.takeWhile test).count c = 0 := by
    refine List.count_eq_zero.mpr fun hmem => ?_
    rw [List.mem_takeWhile_imp hmem] at hc
    cases hc
  have hsplit : (text.takeWhile test).count c + (text.dropWhile test).count c = text.count c := by
    rw [← List.count_append, List.takeWhile_append_dropWhile]
  omega

theorem count_trimChars (hc : isWhiteSpace c = false) (text : List Char) : (trimChars text).count c = text.count c := by
  rw [trimChars, dropEndWhile, List.count_reverse, count_dropWhile hc, List.count_reverse, count_dropWhile hc]

theorem isWhiteSpace_of_mem_blanks (hc : c ∈ List.replicate width ' ') : isWhiteSpace c = true := by
  rw [List.eq_of_mem_replicate hc]
  decide

/-! ### Moving lines to the right changes nothing else -/

theorem count_hangChars (hblank : c ≠ ' ') (text : List Char) :
    (hangChars width text).count c = text.count c := by
  induction text with
  | nil => rfl
  | cons d text ih =>
      by_cases hd : d = '\n'
      · subst hd
        have hblanks : (List.replicate width ' ').count c = 0 :=
          List.count_eq_zero.mpr fun hmem => hblank (List.eq_of_mem_replicate hmem)
        rw [hangChars_newline, List.count_cons, List.count_append, hblanks, ih, List.count_cons, Nat.zero_add]
      · rw [hangChars_cons hd, List.count_cons, ih, List.count_cons]

theorem dropWhile_hangChars (width : Nat) (text : List Char) :
    (hangChars width text).dropWhile isWhiteSpace = hangChars width (text.dropWhile isWhiteSpace) := by
  induction text with
  | nil => rfl
  | cons c text ih =>
      by_cases hc : isWhiteSpace c = true
      · rw [List.dropWhile_cons_of_pos hc, ← ih]
        by_cases hline : c = '\n'
        · subst hline
          rw [hangChars_newline, List.dropWhile_cons_of_pos hc,
            List.dropWhile_append_of_pos fun _ => isWhiteSpace_of_mem_blanks]
        · rw [hangChars_cons hline, List.dropWhile_cons_of_pos hc]
      · have hline : c ≠ '\n' := by
          rintro rfl
          exact hc (by decide)
        rw [List.dropWhile_cons_of_neg hc, hangChars_cons hline, List.dropWhile_cons_of_neg hc]

theorem dropEndWhile_hangChars (width : Nat) (text : List Char) :
    dropEndWhile isWhiteSpace (hangChars width text) = hangChars width (dropEndWhile isWhiteSpace text) := by
  induction text using List.reverseRecOn with
  | nil => rfl
  | append_singleton text c ih =>
      rw [hangChars_append]
      by_cases hc : isWhiteSpace c = true
      · have hhung : ∀ d ∈ hangChars width [c], isWhiteSpace d = true := by
          by_cases hline : c = '\n'
          · subst hline
            rw [hangChars_newline, hangChars_nil, List.append_nil]
            exact List.forall_mem_cons.mpr ⟨hc, fun _ => isWhiteSpace_of_mem_blanks⟩
          · rw [hangChars_cons hline]
            exact List.forall_mem_singleton.mpr hc
        rw [dropEndWhile_append hhung, dropEndWhile_append (List.forall_mem_singleton.mpr hc), ih]
      · have hline : c ≠ '\n' := by
          rintro rfl
          exact hc (by decide)
        have hsingle : hangChars width [c] = [c] := hangChars_cons hline
        rw [hsingle, dropEndWhile_concat hc, dropEndWhile_concat hc, hangChars_append, hsingle]

theorem trimChars_hangChars (width : Nat) (text : List Char) :
    trimChars (hangChars width text) = hangChars width (trimChars text) := by
  rw [trimChars, dropWhile_hangChars, dropEndWhile_hangChars, trimChars]

end Text

/-! ### Items -/

namespace QuoteScan

open Text (hangChars trimChars)

variable {quotings : List Quotes} {scan : QuoteScan} {width : Nat} {c : Char} {text rest item : List Char}

theorem bare_sublist (scan : QuoteScan) (text : List Char) : (bare quotings scan text).Sublist text := by
  induction text generalizing scan with
  | nil => exact List.Sublist.refl _
  | cons c text ih =>
      by_cases h : scan.next quotings c = outside
      · rw [bare_cons_of_outside h]
        exact (ih outside).cons_cons c
      · rw [bare_cons_of_ne h]
        exact (ih _).cons c

/-- Whether no quote is left open behind a text. -/
def Closes (quotings : List Quotes) (text : List Char) : Prop :=
  (after quotings outside text).settled = outside

instance : Decidable (Closes quotings text) :=
  inferInstanceAs (Decidable ((after quotings outside text).settled = outside))

/-- The items between the commas that a reader finds bare. -/
def items (quotings : List Quotes) : QuoteScan → List Char → List (List Char)
  | _, [] => [[]]
  | scan, c :: rest =>
    if c = ',' ∧ scan.next quotings c = outside then [] :: items quotings outside rest
    else (items quotings (scan.next quotings c) rest).modifyHead (c :: ·)

theorem items_ne_nil (scan : QuoteScan) (text : List Char) : items quotings scan text ≠ [] := by
  induction text generalizing scan with
  | nil => exact List.cons_ne_nil _ _
  | cons c text ih =>
      rw [items]
      split
      · exact List.cons_ne_nil _ _
      · rw [ne_eq, List.modifyHead_eq_nil_iff]
        exact ih _

theorem items_append_of_not_mem (h : ',' ∉ bare quotings scan text) (rest : List Char) :
    items quotings scan (text ++ rest) = (items quotings (after quotings scan text) rest).modifyHead (text ++ ·) := by
  induction text generalizing scan with
  | nil => exact (congrFun List.modifyHead_id _).symm
  | cons c text ih =>
      have hcomma : ¬ (c = ',' ∧ scan.next quotings c = outside) := by
        rintro ⟨rfl, hnext⟩
        rw [bare_cons_of_outside hnext] at h
        exact h List.mem_cons_self
      have htext : ',' ∉ bare quotings (scan.next quotings c) text := by
        by_cases hnext : scan.next quotings c = outside
        · rw [bare_cons_of_outside hnext] at h
          exact hnext ▸ fun hmem => h (List.mem_cons_of_mem c hmem)
        · rwa [bare_cons_of_ne hnext] at h
      rw [List.cons_append, items, if_neg hcomma, ih htext, List.modifyHead_modifyHead, after_cons]
      rfl

/-- A bare comma ends the first item. -/
theorem exists_items_append_of_mem (h : ',' ∈ bare quotings scan text) (rest : List Char) :
    ∃ front back others, text = front ++ ',' :: back ∧ items quotings scan (text ++ rest) = front :: others := by
  induction text generalizing scan with
  | nil => cases h
  | cons c text ih =>
      rw [List.cons_append, items]
      split
      · next hcomma => exact ⟨[], text, _, congrArg (· :: text) hcomma.1, rfl⟩
      · next hcomma =>
          have htext : ',' ∈ bare quotings (scan.next quotings c) text := by
            by_cases hnext : scan.next quotings c = outside
            · rw [bare_cons_of_outside hnext] at h
              rcases List.mem_cons.mp h with rfl | h
              · exact absurd ⟨rfl, hnext⟩ hcomma
              · exact hnext ▸ h
            · rwa [bare_cons_of_ne hnext] at h
          obtain ⟨front, back, others, rfl, hitems⟩ := ih htext
          exact ⟨c :: front, back, others, rfl, by rw [hitems]; rfl⟩

/-! ### Items of lists that are moved right -/

section

variable (hline : Plain quotings '\n') (hblank : Plain quotings ' ')

include hblank

theorem after_blanks (h : scan.Within quotings) (width : Nat) :
    after quotings scan.settled (List.replicate width ' ') = scan.settled := by
  induction width with
  | zero => rfl
  | succ width ih =>
      rw [List.replicate_succ, after_cons, next_plain h.settled hblank, settled_settled, ih]

include hline

theorem after_hangChars (h : scan.Within quotings) (width : Nat) (text : List Char) :
    after quotings scan (hangChars width text) = after quotings scan text := by
  induction text generalizing scan with
  | nil => rfl
  | cons c text ih =>
      by_cases hc : c = '\n'
      · subst hc
        rw [Text.hangChars_newline, after_cons, next_plain h hline, after_append, after_blanks hblank h,
          ih h.settled, after_cons, next_plain h hline]
      · rw [Text.hangChars_cons hc, after_cons, ih (h.next c), after_cons]

theorem mem_bare_hangChars (h : scan.Within quotings) (width : Nat) (text : List Char) :
    ',' ∈ bare quotings scan (hangChars width text) ↔ ',' ∈ bare quotings scan text := by
  induction text generalizing scan with
  | nil => rfl
  | cons c text ih =>
      by_cases hc : c = '\n'
      · subst hc
        have hmoved : after quotings scan ('\n' :: List.replicate width ' ') = scan.settled := by
          rw [after_cons, next_plain h hline, after_blanks hblank h]
        have hnew : ',' ∉ bare quotings scan ('\n' :: List.replicate width ' ') := fun hmem => by
          have := (bare_sublist _ _).mem hmem
          simp at this
        have hold : ',' ∉ bare quotings scan ['\n'] := fun hmem => by
          have := (bare_sublist _ _).mem hmem
          simp at this
        rw [Text.hangChars_newline, ← List.cons_append, bare_append, List.mem_append, hmoved,
          or_iff_right hnew, ih h.settled, ← List.singleton_append, bare_append, List.mem_append, or_iff_right hold,
          after_cons, next_plain h hline]
        rfl
      · have htext := ih (h.next c)
        rw [Text.hangChars_cons hc]
        by_cases hnext : scan.next quotings c = outside
        · rw [hnext] at htext
          rw [bare_cons_of_outside hnext, bare_cons_of_outside hnext, List.mem_cons, List.mem_cons, htext]
        · rw [bare_cons_of_ne hnext, bare_cons_of_ne hnext, htext]

end

/-! ### Which items are found -/

theorem trimChars_ne_of_count_ne (h : text.count ',' ≠ item.count ',') : trimChars text ≠ trimChars item := by
  have hcomma : Text.isWhiteSpace ',' = false := by decide
  intro heq
  rw [← Text.count_trimChars hcomma text, heq, Text.count_trimChars hcomma] at h
  exact h rfl

/-- An item as it stands in a list, where its lines are moved right behind line feeds and blanks. -/
structure Shows (lead : List Char) (width : Nat) (item shown : List Char) : Prop where
  eq : shown = lead ++ hangChars width item
  lead : ∀ c ∈ lead, c = '\n' ∨ c = ' '

section

variable {lead shown : List Char} {tail : List (List Char)} (hline : Plain quotings '\n') (hblank : Plain quotings ' ')
  (hshows : Shows lead width item shown)

include hshows

theorem Shows.count_comma : shown.count ',' = item.count ',' := by
  have hlead : lead.count ',' = 0 := List.count_eq_zero.mpr fun hmem => by
    rcases hshows.lead ',' hmem with h | h <;> cases h
  rw [hshows.eq, List.count_append, hlead, Text.count_hangChars (by decide), Nat.zero_add]

theorem Shows.trimChars_eq_iff (hwidth : width ≠ 0) :
    trimChars shown = trimChars item ↔ '\n' ∉ trimChars item := by
  have hlead : ∀ c ∈ lead, Text.isWhiteSpace c = true := by
    intro c hc
    rcases hshows.lead c hc with rfl | rfl <;> decide
  rw [hshows.eq, Text.trimChars_append hlead, Text.trimChars_hangChars, Text.hangChars_eq_self_iff hwidth]

include hline hblank

theorem Shows.after_lead : after quotings outside lead = outside := by
  have hlead := hshows.lead
  clear hshows
  induction lead with
  | nil => rfl
  | cons c lead ih =>
      obtain ⟨hc, hlead⟩ := List.forall_mem_cons.mp hlead
      have hplain : Plain quotings c := by
        rcases hc with rfl | rfl
        · exact hline
        · exact hblank
      have hnext : next quotings outside c = outside := next_plain within_outside hplain
      rw [after_cons, hnext, ih hlead]

theorem Shows.after_eq : after quotings outside shown = after quotings outside item := by
  rw [hshows.eq, after_append, hshows.after_lead hline hblank]
  exact after_hangChars hline hblank within_outside width item

theorem Shows.mem_bare_iff : ',' ∈ bare quotings outside shown ↔ ',' ∈ bare quotings outside item := by
  have hlead : ',' ∉ bare quotings outside lead := fun hmem => by
    rcases hshows.lead ',' ((bare_sublist _ _).mem hmem) with h | h <;> cases h
  rw [hshows.eq, bare_append, List.mem_append, or_iff_right hlead, hshows.after_lead hline hblank]
  exact mem_bare_hangChars hline hblank within_outside width item

/-- A bare comma of its own cuts an item short. -/
theorem Shows.items_ne_of_mem (h : ',' ∈ bare quotings outside item) (rest : List Char) (tail : List (List Char)) :
    (items quotings outside (shown ++ rest)).map trimChars ≠ trimChars item :: tail := by
  obtain ⟨front, back, others, hshown, hitems⟩ :=
    exists_items_append_of_mem ((hshows.mem_bare_iff hline hblank).mpr h) rest
  have hcount : front.count ',' ≠ item.count ',' := by
    rw [← hshows.count_comma, hshown, List.count_append, List.count_cons_self]
    omega
  rw [hitems, List.map_cons]
  exact fun heq => trimChars_ne_of_count_ne hcount (List.cons.inj heq).1

theorem Shows.items_last_iff (hwidth : width ≠ 0) :
    (items quotings outside shown).map trimChars = [trimChars item] ↔
      ',' ∉ bare quotings outside item ∧ '\n' ∉ trimChars item := by
  by_cases h : ',' ∈ bare quotings outside item
  · have hitems := hshows.items_ne_of_mem hline hblank h [] []
    rw [List.append_nil] at hitems
    exact iff_of_false hitems fun hboth => hboth.1 h
  · have hitems := items_append_of_not_mem ((hshows.mem_bare_iff hline hblank).not.mpr h) []
    rw [List.append_nil, items, List.modifyHead_cons, List.append_nil] at hitems
    rw [hitems, List.map_singleton, List.singleton_inj, hshows.trimChars_eq_iff hwidth, and_iff_right h]

theorem Shows.items_cons_iff (hcomma : Plain quotings ',') (hwidth : width ≠ 0) (rest : List Char) :
    (items quotings outside (shown ++ ',' :: rest)).map trimChars = trimChars item :: tail ↔
      (',' ∉ bare quotings outside item ∧ Closes quotings item ∧ '\n' ∉ trimChars item) ∧
        (items quotings outside rest).map trimChars = tail := by
  by_cases h : ',' ∈ bare quotings outside item
  · exact iff_of_false (hshows.items_ne_of_mem hline hblank h _ tail) fun hboth => hboth.1.1 h
  · have hitems := items_append_of_not_mem ((hshows.mem_bare_iff hline hblank).not.mpr h) (',' :: rest)
    have hnext : (after quotings outside item).next quotings ',' = (after quotings outside item).settled :=
      next_plain (within_outside.after item) hcomma
    rw [hshows.after_eq hline hblank, items, hnext] at hitems
    by_cases hcloses : Closes quotings item
    · rw [if_pos ⟨rfl, hcloses⟩, List.modifyHead_cons, List.append_nil] at hitems
      rw [hitems, List.map_cons, List.cons.injEq, hshows.trimChars_eq_iff hwidth]
      simp [h, hcloses]
    · have hne : items quotings (after quotings outside item).settled rest ≠ [] := items_ne_nil _ rest
      obtain ⟨first, others, hfirst⟩ := List.exists_cons_of_ne_nil hne
      have hcount : (shown ++ ',' :: first).count ',' ≠ item.count ',' := by
        rw [List.count_append, List.count_cons_self, hshows.count_comma]
        omega
      rw [if_neg fun hboth => hcloses hboth.2, hfirst, List.modifyHead_cons, List.modifyHead_cons] at hitems
      rw [hitems, List.map_cons]
      exact iff_of_false (fun heq => trimChars_ne_of_count_ne hcount (List.cons.inj heq).1)
        fun hboth => hcloses hboth.1.2.1

end

end QuoteScan

/-! ### Select lists -/

namespace Text

open QuoteScan (bare items Closes)

/-- The items that a reader finds in a list. -/
def listItems (dialect : Dialect) (list : String) : List String :=
  (items dialect.quotings .outside list.toList).map fun item => String.ofList (trimChars item)

/-- Items that keep apart in a list with commas between them: none has a bare comma, none but the last leaves a quote
open, and none is broken over lines. -/
structure Separable (dialect : Dialect) (columns : List String) : Prop where
  commas : ∀ column ∈ columns, ',' ∉ bare dialect.quotings .outside column.toList
  closes : ∀ column ∈ columns.dropLast, Closes dialect.quotings column.toList
  lines : ∀ column ∈ columns, '\n' ∉ trimChars column.toList

variable {width : Nat}

theorem toList_columnLines_singleton (width : Nat) (column : String) :
    (columnLines width [column]).toList = List.replicate width ' ' ++ hangChars width column.toList := by
  rw [columnLines, indent_eq]
  simp [hang]

theorem toList_columnLines_cons (width : Nat) (first second : String) (columns : List String) :
    (columnLines width (first :: second :: columns)).toList =
      List.replicate width ' ' ++ hangChars width first.toList ++
        ',' :: '\n' :: (columnLines width (second :: columns)).toList := by
  rw [columnLines, columnLines, indent_eq, indent_eq]
  simp [hang, hangChars_append, hangChars_newline, hangChars_cons]

theorem separable_singleton {dialect : Dialect} {column : String} :
    Separable dialect [column] ↔
      ',' ∉ bare dialect.quotings .outside column.toList ∧ '\n' ∉ trimChars column.toList := by
  constructor
  · intro h
    exact ⟨h.commas column List.mem_cons_self, h.lines column List.mem_cons_self⟩
  · rintro ⟨hcommas, hlines⟩
    exact ⟨List.forall_mem_singleton.mpr hcommas, List.forall_mem_nil _, List.forall_mem_singleton.mpr hlines⟩

theorem separable_cons {dialect : Dialect} {first second : String} {columns : List String} :
    Separable dialect (first :: second :: columns) ↔
      (',' ∉ bare dialect.quotings .outside first.toList ∧ Closes dialect.quotings first.toList ∧
        '\n' ∉ trimChars first.toList) ∧ Separable dialect (second :: columns) := by
  constructor
  · rintro ⟨hcommas, hcloses, hlines⟩
    rw [List.dropLast_cons_cons] at hcloses
    obtain ⟨hcomma, hcommas⟩ := List.forall_mem_cons.mp hcommas
    obtain ⟨hclose, hcloses⟩ := List.forall_mem_cons.mp hcloses
    obtain ⟨hline, hlines⟩ := List.forall_mem_cons.mp hlines
    exact ⟨⟨hcomma, hclose, hline⟩, hcommas, hcloses, hlines⟩
  · rintro ⟨⟨hcomma, hclose, hline⟩, hcommas, hcloses, hlines⟩
    refine ⟨List.forall_mem_cons.mpr ⟨hcomma, hcommas⟩, ?_, List.forall_mem_cons.mpr ⟨hline, hlines⟩⟩
    rw [List.dropLast_cons_cons]
    exact List.forall_mem_cons.mpr ⟨hclose, hcloses⟩

theorem items_columnLines_iff (dialect : Dialect) (hwidth : width ≠ 0) {columns : List String} (hne : columns ≠ [])
    {lead : List Char} (hlead : ∀ c ∈ lead, c = '\n' ∨ c = ' ') :
    (items dialect.quotings .outside (lead ++ (columnLines width columns).toList)).map trimChars =
        columns.map (fun column => trimChars column.toList) ↔
      Separable dialect columns := by
  have hline : QuoteScan.Plain dialect.quotings '\n' := by cases dialect <;> decide
  have hblank : QuoteScan.Plain dialect.quotings ' ' := by cases dialect <;> decide
  have hcomma : QuoteScan.Plain dialect.quotings ',' := by cases dialect <;> decide
  induction columns generalizing lead with
  | nil => exact absurd rfl hne
  | cons column columns ih =>
      have hmoved : ∀ c ∈ lead ++ List.replicate width ' ', c = '\n' ∨ c = ' ' := by
        intro c hc
        rcases List.mem_append.mp hc with hc | hc
        · exact hlead c hc
        · exact Or.inr (List.eq_of_mem_replicate hc)
      have hshows : QuoteScan.Shows (lead ++ List.replicate width ' ') width column.toList
          (lead ++ List.replicate width ' ' ++ hangChars width column.toList) := ⟨rfl, hmoved⟩
      cases columns with
      | nil =>
          rw [toList_columnLines_singleton, ← List.append_assoc, separable_singleton]
          exact hshows.items_last_iff hline hblank hwidth
      | cons second columns =>
          have hfeed : ∀ c ∈ ['\n'], c = '\n' ∨ c = ' ' := List.forall_mem_singleton.mpr (Or.inl rfl)
          have hrest := ih (List.cons_ne_nil _ _) hfeed
          rw [List.singleton_append] at hrest
          rw [toList_columnLines_cons, ← List.append_assoc, ← List.append_assoc, List.map_cons, separable_cons]
          exact (hshows.items_cons_iff hline hblank hcomma hwidth _).trans (and_congr_right fun _ => hrest)

/-- A reader finds the columns of a list one by one exactly if they keep apart. -/
theorem listItems_columnLines_iff (dialect : Dialect) {columns : List String} (hne : columns ≠ []) :
    listItems dialect (columnLines 2 columns) = columns.map trim ↔ Separable dialect columns := by
  have hinjective : Function.Injective (List.map String.ofList) :=
    List.map_injective_iff.mpr fun first second h => by simpa using congrArg String.toList h
  have hlist : listItems dialect (columnLines 2 columns) =
      ((items dialect.quotings .outside (columnLines 2 columns).toList).map trimChars).map String.ofList := by
    rw [listItems, List.map_map]
    rfl
  have hcolumns : columns.map trim = (columns.map fun column => trimChars column.toList).map String.ofList := by
    rw [List.map_map]
    rfl
  rw [hlist, hcolumns, hinjective.eq_iff]
  have hitems := items_columnLines_iff dialect (Nat.succ_ne_zero 1) hne (List.forall_mem_nil _)
  rwa [List.nil_append] at hitems

end Text

/-! ### The select lists of a union by name -/

namespace ColumnSplit

variable {left right : List String}

theorem output_ne_nil (h : ¬ (left = [] ∧ right = [])) : (ofColumns left right).output ≠ [] :=
  output_eq_nil_iff.not.mpr h

theorem leftProjection_ne_nil (h : ¬ (left = [] ∧ right = [])) : (ofColumns left right).leftProjection ≠ [] := by
  rw [leftProjection_eq_map, ne_eq, List.map_eq_nil_iff]
  exact output_ne_nil h

theorem rightProjection_ne_nil (h : ¬ (left = [] ∧ right = [])) : (ofColumns left right).rightProjection ≠ [] := by
  rw [rightProjection_eq_map, ne_eq, List.map_eq_nil_iff]
  exact output_ne_nil h

end ColumnSplit

/-- The fragment of a union by name is made from the columns that its sides are found to have, and its two select lists
have one item for each column of the union. A reader finds these items one by one exactly if they keep apart, that is,
if none has a bare comma, none but the last leaves a quote open, and none is broken over lines. -/
theorem Workspace.unionByName_listItems {σ : Type} (workspace : Workspace σ) (left right : Frame)
    (allowMissing : Bool) :
    (∀ union, (workspace.unionByName left right allowMissing).1 = .ok union →
      ∃ leftColumns rightColumns, (workspace.columns left).1 = .ok leftColumns ∧
        ((workspace.columns left).2.columns right).1 = .ok rightColumns ∧
          (ColumnSplit.ofColumns leftColumns rightColumns).unionFragment left.name right.name = .ok union.fragment) ∧
      ∀ leftColumns rightColumns, ¬ (leftColumns = [] ∧ rightColumns = []) →
        let split := ColumnSplit.ofColumns leftColumns rightColumns
        split.unionFragment left.name right.name = .ok (ColumnSplit.selectFrom split.leftProjection left.name ++
            "\nUNION ALL\n" ++ ColumnSplit.selectFrom split.rightProjection right.name) ∧
          split.leftProjection.length = split.output.length ∧ split.rightProjection.length = split.output.length ∧
          ∀ dialect,
            (Text.listItems dialect (Text.columnLines 2 split.leftProjection) = split.leftProjection.map Text.trim ↔
              Text.Separable dialect split.leftProjection) ∧
            (Text.listItems dialect (Text.columnLines 2 split.rightProjection) = split.rightProjection.map Text.trim ↔
              Text.Separable dialect split.rightProjection) := by
  refine ⟨fun union h => (exists_columns_of_unionByName h).2, fun leftColumns rightColumns h => ?_⟩
  have houtput : ¬ (ColumnSplit.ofColumns leftColumns rightColumns).output.isEmpty = true := by
    rw [List.isEmpty_iff]
    exact ColumnSplit.output_ne_nil h
  refine ⟨if_neg houtput, ?_, ?_, fun dialect => ⟨?_, ?_⟩⟩
  · rw [ColumnSplit.leftProjection_eq_map, List.length_map]
  · rw [ColumnSplit.rightProjection_eq_map, List.length_map]
  · exact Text.listItems_columnLines_iff dialect (ColumnSplit.leftProjection_ne_nil h)
  · exact Text.listItems_columnLines_iff dialect (ColumnSplit.rightProjection_ne_nil h)

namespace Priced

/-- Answers every statement with some columns and no rows. -/
def reporting (columns : List String) : Executor Unit :=
  fun _ state => (.ok ⟨columns.map fun name => ⟨name, "INTEGER", .nullable, []⟩, []⟩, state)

def left : Derivation := ⟨⟨⟨0, 0⟩, "l", "SELECT 1 AS \"price, net\"", []⟩, true, []⟩

def right : Derivation := ⟨⟨⟨0, 1⟩, "r", "SELECT 2 AS \"price, net\"", []⟩, true, []⟩

def history (columns : List String) : History Unit :=
  History.mk ((Workspace.start (reporting columns) ()).openSession .postgres true).2 []
    |>.perform (.sqlAs 0 "SELECT 1 AS \"price, net\"" "l") []
    |>.perform (.sqlAs 0 "SELECT 2 AS \"price, net\"" "r") []

theorem reached (columns : List String) :
    History.Reached (reporting columns) () (fun _ _ => True) (history columns) := by
  refine .perform (.perform (.openSession .postgres true .start) ?_ trivial) ?_ trivial
  · exact .of_builder (s := 0) Nat.zero_lt_one rfl rfl
  · exact .of_builder (s := 0) Nat.zero_lt_one rfl rfl

/-- A comma in quotes is not bare, and the last column may leave a quote open. -/
def columns : List String := ["\"a, b\"", "it's"]

/-- Columns that keep apart are found one by one. -/
theorem listItems_columns :
    ∃ union, ((history columns).workspace.unionByName left.frame right.frame false).1 = .ok union ∧
      union.fragment =
        ColumnSplit.selectFrom columns "l" ++ "\nUNION ALL\n" ++ ColumnSplit.selectFrom columns "r" ∧
      Text.listItems .postgres (Text.columnLines 2 columns) = columns := by
  obtain ⟨hmade, hlists⟩ := (history columns).workspace.unionByName_listItems left.frame right.frame false
  obtain ⟨union, hresult⟩ :
      ∃ union, ((history columns).workspace.unionByName left.frame right.frame false).1 = .ok union :=
    ⟨_, rfl⟩
  obtain ⟨leftColumns, rightColumns, hleft, hright, hfragment⟩ := hmade union hresult
  obtain rfl : columns = leftColumns := Except.ok.inj hleft
  obtain rfl : columns = rightColumns := Except.ok.inj hright
  obtain ⟨hunion, -, -, hitems⟩ := hlists columns columns (by decide)
  have hprojections : (ColumnSplit.ofColumns columns columns).leftProjection = columns ∧
      (ColumnSplit.ofColumns columns columns).rightProjection = columns := by
    decide +kernel
  rw [hprojections.1, hprojections.2] at hunion
  rw [hprojections.1] at hitems
  have hseparable : Text.Separable .postgres columns :=
    ⟨by decide +kernel, by decide +kernel, by decide +kernel⟩
  have htrimmed : columns.map Text.trim = columns := by decide +kernel
  exact ⟨union, hresult, Except.ok.inj (hfragment.symm.trans hunion),
    ((hitems .postgres).1.mpr hseparable).trans htrimmed⟩

/-- A column with a bare comma in its name is read as two. -/
theorem exists_divided_column :
    ∃ (history : History Unit) (left right : Derivation) (union : Frame),
      History.Reached (reporting ["price, net"]) () (fun _ _ => True) history ∧
        left ∈ history.made ∧ right ∈ history.made ∧
          (history.workspace.perform (.unionByName left.frame right.frame false)).1 = .ok (.frame union) ∧
            (ColumnSplit.ofColumns ["price, net"] ["price, net"]).output = ["price, net"] ∧
              union.fragment = ColumnSplit.selectFrom ["price, net"] "l" ++ "\nUNION ALL\n" ++
                ColumnSplit.selectFrom ["price, net"] "r" ∧
                Text.listItems .postgres (Text.columnLines 2 ["price, net"]) = ["price", "net"] := by
  refine ⟨history ["price, net"], left, right, _, reached _, List.mem_of_getElem? (i := 0) rfl,
    List.mem_of_getElem? (i := 1) rfl, rfl, ?_, ?_, ?_⟩
  · decide +kernel
  · decide +kernel
  · decide +kernel

end Priced

end QueryFrames
