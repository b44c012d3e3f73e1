import QueryFrames.Text.Layout
import QueryFrames.Worker.Error

/-!
Why an operation on frames fails. Every refusal names its cause, and a failed execution carries the statement
that was submitted together with the worker's own error.
-/

namespace QueryFrames

/-- Why an operation on frames fails. -/
inductive FrameError where
  | duplicateAlias (name : String)
  | schemaMismatch (left right : List String)
  | invalidArgument (reason : String)
  | execution (query : String) (source : WorkerError)
  | disconnected
  | unexpectedResult (reason : String)
deriving DecidableEq, Repr

namespace FrameError

/-- The text shown for an error. -/
def message : FrameError → String
  | duplicateAlias name => "Duplicate alias " ++ name
  | schemaMismatch left right =>
    "UnionByName: frames must have the same columns, unless allow_missing_columns is set to true."
      ++ "\nColumns in first frame: [" ++ Text.columnList left
      ++ "]\nColumns in second frame: [" ++ Text.columnList right ++ "]"
  | invalidArgument reason => "Invalid argument: " ++ reason
  | execution query source => "Query execution failed: " ++ source.message ++ "\nQuery:\n" ++ query
  | disconnected => "No query executor attached to this session"
  | unexpectedResult reason => "Unexpected query result: " ++ reason

/-- Whether the statement got as far as the executor. -/
def isExecution : FrameError → Bool
  | execution .. => true
  | _ => false

/-- An operation that needs columns was given none. -/
def noColumns (operation : String) : FrameError :=
  invalidArgument (operation ++ " requires at least one column")

/-- A row limit below zero. -/
def negativeLimit (limit : Int) : FrameError :=
  invalidArgument ("limit must be non-negative, got " ++ toString limit)

/-- Two frames that no one session made. -/
def foreignFrames (left right : String) : FrameError :=
  invalidArgument ("frames " ++ left ++ " and " ++ right ++ " belong to different builders")

end FrameError

end QueryFrames
