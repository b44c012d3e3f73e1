import QueryFrames.Text.Quotes

/-! Quoted identifiers read back. Inside the quotes a closing quote that another one follows stands for itself, and
the first that stands alone ends the identifier, so a reader knows where an identifier ends from its text alone. -/

namespace QueryFrames.Quotes

/-- What is left of a quoted identifier, without its closing quote, and what stands behind that quote. -/
def readInside (quotes : Quotes) : List Char → Option (List Char × List Char)
  | [] => none
  | [c] => if c = quotes.closing then some ([], []) else none
  | c :: d :: rest =>
    if c = quotes.closing then
      if d = quotes.closing then (readInside quotes rest).map fun read => (c :: read.1, read.2)
      else some ([], d :: rest)
    else (readInside quotes (d :: rest)).map fun read => (c :: read.1, read.2)

/-- The quoted identifier that a text begins with, and what stands behind it. -/
def read (quotes : Quotes) : List Char → Option (List Char × List Char)
  | [] => none
  | c :: rest => if c = quotes.opening then readInside quotes rest else none

variable {quotes : Quotes} {c : Char} {rest : List Char}

theorem escape_of_not_mem {identifier : List Char} (h : quotes.closing ∉ identifier) :
    quotes.escape identifier = identifier := by
  induction identifier with
  | nil => rfl
  | cons c identifier ih =>
      rw [List.mem_cons, not_or] at h
      obtain ⟨hc, hidentifier⟩ := h
      rw [escape_cons, if_neg (Ne.symm hc), ih hidentifier]
      rfl

theorem readInside_cons (hc : c ≠ quotes.closing) (text : List Char) :
    quotes.readInside (c :: text) = (quotes.readInside text).map fun read => (c :: read.1, read.2) := by
  cases text with
  | nil => simp [readInside, hc]
  | cons d rest => rw [readInside, if_neg hc]

theorem readInside_doubled (text : List Char) :
    quotes.readInside (quotes.closing :: quotes.closing :: text) =
      (quotes.readInside text).map fun read => (quotes.closing :: read.1, read.2) := by
  rw [readInside, if_pos rfl, if_pos rfl]

theorem readInside_closing (hrest : rest.head? ≠ some quotes.closing) :
    quotes.readInside (quotes.closing :: rest) = some ([], rest) := by
  cases rest with
  | nil => simp [readInside]
  | cons d rest =>
      have hd : d ≠ quotes.closing := fun h => hrest (congrArg some h)
      rw [readInside, if_pos rfl, if_neg hd]

theorem readInside_escape (identifier : List Char) (hrest : rest.head? ≠ some quotes.closing) :
    quotes.readInside (quotes.escape identifier ++ quotes.closing :: rest) = some (identifier, rest) := by
  induction identifier with
  | nil => exact readInside_closing hrest
  | cons c identifier ih =>
      rw [escape_cons]
      by_cases hc : c = quotes.closing
      · subst hc
        rw [if_pos rfl, List.append_assoc, List.cons_append, List.cons_append, List.nil_append,
          readInside_doubled, ih]
        rfl
      · rw [if_neg hc, List.append_assoc, List.cons_append, List.nil_append, readInside_cons hc, ih]
        rfl

theorem read_quote (identifier : String) (hrest : rest.head? ≠ some quotes.closing) :
    quotes.read ((quotes.quote identifier).toList ++ rest) = some (identifier.toList, rest) := by
  rw [toList_quote, List.append_assoc, List.cons_append, read, if_pos rfl]
  exact readInside_escape identifier.toList hrest

/-- Whatever is read inside quotes was escaped there and closed. -/
theorem readInside_eq_some {text identifier : List Char} (h : quotes.readInside text = some (identifier, rest)) :
    text = quotes.escape identifier ++ quotes.closing :: rest ∧ rest.head? ≠ some quotes.closing := by
  fun_induction readInside quotes text generalizing identifier rest with
  | case1 => cases h
  | case2 =>
      cases h
      exact ⟨rfl, Option.some_ne_none _ ∘ Eq.symm⟩
  | case3 => cases h
  | case4 text ih =>
      obtain ⟨⟨inner, behind⟩, hread, heq⟩ := Option.map_eq_some_iff.mp h
      cases heq
      obtain ⟨rfl, hrest⟩ := ih hread
      refine ⟨?_, hrest⟩
      rw [escape_cons, if_pos rfl]
      rfl
  | case5 d text hd =>
      cases h
      exact ⟨rfl, fun heq => hd (Option.some.inj heq)⟩
  | case6 c d text hc ih =>
      obtain ⟨⟨inner, behind⟩, hread, heq⟩ := Option.map_eq_some_iff.mp h
      cases heq
      obtain ⟨htext, hrest⟩ := ih hread
      refine ⟨?_, hrest⟩
      rw [escape_cons, if_neg hc, htext]
      rfl

/-- A reader finds an identifier exactly where it is quoted and no closing quote follows. -/
theorem read_eq_some_iff {text identifier : List Char} :
    quotes.read text = some (identifier, rest) ↔
      text = (quotes.quote (String.ofList identifier)).toList ++ rest ∧ rest.head? ≠ some quotes.closing := by
  constructor
  · intro h
    cases text with
    | nil => cases h
    | cons c text =>
        rw [read] at h
        split at h
        · next hc =>
            obtain ⟨rfl, hrest⟩ := readInside_eq_some h
            exact ⟨by simp [hc], hrest⟩
        · cases h
  · rintro ⟨rfl, hrest⟩
    rw [read_quote _ hrest, String.toList_ofList]

end QueryFrames.Quotes
