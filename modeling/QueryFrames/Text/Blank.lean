import QueryFrames.Text.Ranges

/-!
White space and trimming. A query file loses the white space at its end and then every semicolon that is left
there; white space in front of those semicolons stays.
-/

namespace QueryFrames.Text

/-- Code points with the White_Space property. -/
def whiteSpaceRanges : Ranges :=
  [(0x9, 0xd), (0x20, 0x20), (0x85, 0x85), (0xa0, 0xa0), (0x1680, 0x1680), (0x2000, 0x200a), (0x2028, 0x2029),
    (0x202f, 0x202f), (0x205f, 0x205f), (0x3000, 0x3000)]

/-- Whether a character is white space. -/
def isWhiteSpace (c : Char) : Bool :=
  whiteSpaceRanges.contains c

/-- A list without the longest run at its end of elements that satisfy the test. -/
def dropEndWhile (test : Char → Bool) (text : List Char) : List Char :=
  (text.reverse.dropWhile test).reverse

/-- The query of a file: its text without white space and then semicolons at the end. -/
def trimQuery (text : String) : String :=
  String.ofList (dropEndWhile (· = ';') (dropEndWhile isWhiteSpace text.toList))

variable {c : Char} {rest : List Char}

theorem dropEndWhile_append {test : Char → Bool} (hrest : ∀ c ∈ rest, test c = true) (text : List Char) :
    dropEndWhile test (text ++ rest) = dropEndWhile test text := by
  have hreverse : ∀ c ∈ rest.reverse, test c = true := fun c hc => hrest c (List.mem_reverse.mp hc)
  rw [dropEndWhile, List.reverse_append, List.dropWhile_append_of_pos hreverse, dropEndWhile]

theorem dropEndWhile_concat {test : Char → Bool} (hc : ¬ test c = true) (text : List Char) :
    dropEndWhile test (text ++ [c]) = text ++ [c] := by
  rw [dropEndWhile, List.reverse_append, List.reverse_singleton, List.singleton_append, List.dropWhile_cons_of_neg hc,
    List.reverse_cons, List.reverse_reverse]

theorem isWhiteSpace_of_isWhitespace (h : c.isWhitespace = true) : isWhiteSpace c = true := by
  have : c = ' ' ∨ c = '\t' ∨ c = '\r' ∨ c = '\n' := by
    simpa [Char.isWhitespace, or_assoc] using h
  rcases this with rfl | rfl | rfl | rfl <;> decide

end QueryFrames.Text
