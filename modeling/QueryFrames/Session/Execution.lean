import QueryFrames.Json.Basic
import QueryFrames.Schema.Basic
import QueryFrames.Worker.Error

/-!
What executes statements. An executor answers one call after another and may change its state with each, so its
answers need not be the same twice; this is all a session knows of it.
-/

namespace QueryFrames

/-- Whether a statement is only asked for the shape of its result or is run. -/
inductive ExecutionMode where
  | dryRun
  | materialize
deriving DecidableEq, Repr

/-- One row of a result. -/
abbrev Row := List Json

/-- The shape of a result and its rows. -/
structure QueryResult where
  schema : Schema
  rows : List Row
deriving Repr, Inhabited

/-- A statement submitted for execution. -/
structure Call where
  mode : ExecutionMode
  sql : String
deriving DecidableEq, Repr

/-- Answers a call and moves to another state. -/
abbrev Executor (σ : Type) := Call → σ → Except WorkerError QueryResult × σ

/-- An executor that is never called. -/
def Executor.absent : Executor Unit :=
  fun _ state => (.error .channelClosed, state)

end QueryFrames
