/-!
Laying out generated text: lines, indentation, and lists of columns. A text is cut at every line feed and at
nothing else, so a carriage return stays with its line and a final line feed leaves an empty last line.
-/

namespace QueryFrames.Text

/-- The lines of a text; the empty text is one empty line. -/
def lines (text : String) : List String :=
  (text.toList.splitOn '\n').map String.ofList

/-- A run of blanks. -/
def blanks (width : Nat) : String :=
  String.ofList (List.replicate width ' ')

/-- Every line, empty ones too, moved right by `width` blanks. -/
def indent (width : Nat) (text : String) : String :=
  String.intercalate "\n" ((lines text).map (blanks width ++ ·))

/-- Columns on one line. -/
def columnList (columns : List String) : String :=
  String.intercalate ", " columns

/-- Columns one to a line, moved right by `width` blanks. -/
def columnLines (width : Nat) (columns : List String) : String :=
  indent width (String.intercalate ",\n" columns)

@[simp] theorem toList_blanks (width : Nat) : (blanks width).toList = List.replicate width ' ' := by
  simp [blanks]

theorem lines_empty : lines "" = [""] := by
  simp [lines]

end QueryFrames.Text
