import QueryFrames.Text.Layout

/-!
The fragments that operations give the frames they make. Each reads its parents through their aliases; column
names and expressions go in as they were given.
-/

namespace QueryFrames.Fragment

/-- All rows of a table under an already quoted path. -/
def table (path : String) : String :=
  "SELECT * FROM " ++ path

/-- A projection. -/
def select (source : String) (columns : List String) : String :=
  "SELECT\n" ++ Text.columnLines 2 columns ++ "\nFROM " ++ source

/-- The rows that satisfy a predicate. -/
def filter (source predicate : String) : String :=
  "SELECT *\nFROM " ++ source ++ "\nWHERE " ++ predicate

/-- The first rows. -/
def limit (source : String) (count : Int) : String :=
  "SELECT * FROM " ++ source ++ " LIMIT " ++ toString count

/-- The rows in an order. -/
def sort (source : String) (columns : List String) : String :=
  "SELECT *\nFROM " ++ source ++ "\nORDER BY " ++ Text.columnList columns

/-- The rows with one column more, or one replaced. -/
def withColumn (source name expression : String) (replace : Bool) : String :=
  if replace then "SELECT * REPLACE (" ++ expression ++ " AS " ++ name ++ ") FROM " ++ source
  else "SELECT *, " ++ expression ++ " AS " ++ name ++ " FROM " ++ source

/-- The rows of two frames, columns matched by place. -/
def union (left right : String) : String :=
  "SELECT * FROM " ++ left ++ " UNION ALL SELECT * FROM " ++ right

/-- The number of rows. -/
def count (source : String) : String :=
  "SELECT COUNT(1) FROM " ++ source

end QueryFrames.Fragment
