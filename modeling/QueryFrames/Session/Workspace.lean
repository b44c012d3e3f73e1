import QueryFrames.Frame.ColumnSplit
import QueryFrames.Schema.Tree
import QueryFrames.Session.Basic
import QueryFrames.Session.Count

/-!
Several sessions over one executor, and the operations that submit statements. The shape of a frame is asked for
once, by a statement that returns no rows; after that it is remembered, while a failure is not. Every statement
that reaches the executor is logged.
-/

namespace QueryFrames

/-- Sessions, the executor they share, its state, and the calls it was sent. -/
structure Workspace (σ : Type) where
  sessions : List Session
  executor : Executor σ
  state : σ
  calls : List Call

/-- What an operation answers, and the workspace after it. -/
abbrev Outcome (σ α : Type) := Except FrameError α × Workspace σ

namespace Workspace

variable {σ : Type}

/-- No sessions yet. -/
def start (executor : Executor σ) (state : σ) : Workspace σ := ⟨[], executor, state, []⟩

/-- The session of a number; a number that was never given out is that of a session without frames. -/
def session (workspace : Workspace σ) (id : Nat) : Session :=
  workspace.sessions.getD id (.fresh id .bigQuery false)

/-- Puts a session in its place. -/
def put (workspace : Workspace σ) (session : Session) : Workspace σ :=
  { workspace with sessions := workspace.sessions.set session.id session }

/-- Opens a session and gives out its number. -/
def openSession (workspace : Workspace σ) (dialect : Dialect) (connected : Bool) : Nat × Workspace σ :=
  let id := workspace.sessions.length
  (id, { workspace with sessions := workspace.sessions ++ [.fresh id dialect connected] })

/-- The text of a frame's statement in its session. -/
def compile (workspace : Workspace σ) (frame : Frame) : String :=
  (workspace.session frame.id.session).compile frame

/-- The shape of a frame, if it is known. -/
def schema? (workspace : Workspace σ) (frame : Frame) : Option Schema :=
  (workspace.session frame.id.session).schema? frame.id

/-- A composition in one session, which is put back if it succeeds. -/
def compose {α : Type} (workspace : Workspace σ) (made : Except FrameError (α × Session)) : Outcome σ α :=
  match made with
  | .ok (answer, session) => (.ok answer, workspace.put session)
  | .error error => (.error error, workspace)

/-- Submits a statement for a session. -/
def execute (workspace : Workspace σ) (session : Nat) (mode : ExecutionMode) (sql : String) :
    Outcome σ QueryResult :=
  if (workspace.session session).connected then
    let call : Call := ⟨mode, sql⟩
    let (reply, state) := workspace.executor call workspace.state
    let workspace := { workspace with state, calls := workspace.calls ++ [call] }
    match reply with
    | .ok result => (.ok result, workspace)
    | .error source => (.error (.execution sql source), workspace)
  else (.error .disconnected, workspace)

/-- Makes a frame that is only submitted, and submits it. -/
def submit (workspace : Workspace σ) (parent : Frame) (fragment : String) (mode : ExecutionMode) :
    Outcome σ QueryResult :=
  let (frame, session) := (workspace.session parent.id.session).derive [parent] fragment
  (workspace.put session).execute session.id mode (session.compile frame)

/-- The shape of a frame, asked for unless it is known. -/
def schema (workspace : Workspace σ) (frame : Frame) : Outcome σ Schema :=
  match workspace.schema? frame with
  | some schema => (.ok schema, workspace)
  | none =>
    match workspace.submit frame (Fragment.limit frame.name 0) .dryRun with
    | (.ok result, workspace) =>
      (.ok result.schema,
        workspace.put ((workspace.session frame.id.session).remember frame.id result.schema))
    | (.error error, workspace) => (.error error, workspace)

/-- The names of a frame's outermost columns. -/
def columns (workspace : Workspace σ) (frame : Frame) : Outcome σ (List String) :=
  let (answer, workspace) := workspace.schema frame
  (answer.map Schema.columnNames, workspace)

/-- The tree of a frame's shape. -/
def treeString (workspace : Workspace σ) (frame : Frame) : Outcome σ String :=
  let (answer, workspace) := workspace.schema frame
  (answer.map Schema.tree, workspace)

/-- All rows of a frame. -/
def collect (workspace : Workspace σ) (frame : Frame) : Outcome σ (List Row) :=
  let (answer, workspace) :=
    workspace.execute frame.id.session .materialize (workspace.compile frame)
  (answer.map (·.rows), workspace)

/-- At most `count` rows of a frame. -/
def take (workspace : Workspace σ) (frame : Frame) (count : Int) : Outcome σ (List Row) :=
  match workspace.compose ((workspace.session frame.id.session).limit frame count) with
  | (.ok limited, workspace) => workspace.collect limited
  | (.error error, workspace) => (.error error, workspace)

/-- The number of rows of a frame. -/
def count (workspace : Workspace σ) (frame : Frame) : Outcome σ Nat :=
  let (answer, workspace) := workspace.submit frame (Fragment.count frame.name) .materialize
  (answer.bind fun result => countOfRows result.rows, workspace)

/-- The rows of two frames, columns matched by name. -/
def unionByName (workspace : Workspace σ) (left right : Frame) (allowMissing : Bool) : Outcome σ Frame :=
  match Session.checkSameSession left right with
  | .error error => (.error error, workspace)
  | .ok () =>
    match workspace.columns left with
    | (.error error, workspace) => (.error error, workspace)
    | (.ok leftColumns, workspace) =>
      match workspace.columns right with
      | (.error error, workspace) => (.error error, workspace)
      | (.ok rightColumns, workspace) =>
        workspace.compose do
          let split ← ColumnSplit.reconcile leftColumns rightColumns allowMissing
          let fragment ← split.unionFragment left.name right.name
          (workspace.session left.id.session).combine left right fragment

end Workspace

end QueryFrames
