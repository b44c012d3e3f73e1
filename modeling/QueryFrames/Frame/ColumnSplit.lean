import QueryFrames.Frame.Error

/-!
Two lists of columns brought together by name. The columns of the left list that the right one lacks come first,
then those that both have, then those that only the right list has; each side fills what it lacks with nulls, so
the two select lists agree place by place.
-/

namespace QueryFrames

/-- The columns of two lists by the side they are on. -/
structure ColumnSplit where
  leftOnly : List String
  common : List String
  rightOnly : List String
deriving DecidableEq, Repr

namespace ColumnSplit

/-- Splits two lists of columns; the common columns keep the order of the left list. -/
def ofColumns (left right : List String) : ColumnSplit where
  leftOnly := left.filter (· ∉ right)
  common := left.filter (· ∈ right)
  rightOnly := right.filter (· ∉ left)

/-- Whether both sides have the same columns. -/
def isAligned (split : ColumnSplit) : Bool :=
  split.leftOnly.isEmpty && split.rightOnly.isEmpty

/-- Splits two lists of columns and, unless a side may lack columns, refuses lists that differ as sets. -/
def reconcile (left right : List String) (allowMissing : Bool) : Except FrameError ColumnSplit :=
  let split := ofColumns left right
  if split.isAligned || allowMissing then .ok split else .error (.schemaMismatch left right)

/-- The columns of the union. -/
def output (split : ColumnSplit) : List String :=
  split.leftOnly ++ split.common ++ split.rightOnly

/-- A null in place of a column. -/
def nullAs (column : String) : String :=
  "NULL AS " ++ column

/-- What the left side selects. -/
def leftProjection (split : ColumnSplit) : List String :=
  split.leftOnly ++ split.common ++ split.rightOnly.map nullAs

/-- What the right side selects. -/
def rightProjection (split : ColumnSplit) : List String :=
  split.leftOnly.map nullAs ++ split.common ++ split.rightOnly

/-- One side of the union. -/
def selectFrom (projection : List String) (source : String) : String :=
  "SELECT\n" ++ Text.columnLines 2 projection ++ "\nFROM " ++ source

/-- The union of two frames by name. -/
def unionFragment (split : ColumnSplit) (left right : String) : Except FrameError String :=
  if split.output.isEmpty then .error (.noColumns "union_by_name")
  else .ok (selectFrom split.leftProjection left ++ "\nUNION ALL\n" ++ selectFrom split.rightProjection right)

end ColumnSplit

end QueryFrames
