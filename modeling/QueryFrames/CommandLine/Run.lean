import QueryFrames.CommandLine.Arguments
import QueryFrames.Surroundings.Basic
import QueryFrames.Session.Workspace
import QueryFrames.Text.Blank

/-!
Running a job: settings first, then for every command but `compile` the worker and its connection, then the views
in their order, and the query file last. The first fault ends the run; nothing is printed before all is done.
-/

namespace QueryFrames.CommandLine

/-- Why a run fails. -/
inductive RunError where
  | settings (error : SettingsError)
  | worker (error : WorkerError)
  | frame (error : FrameError)
  | invalidView (argument : String)
  | unreadable (path : String) (fault : IoFault)
deriving DecidableEq, Repr

/-- The text shown for a failed run. -/
def RunError.message : RunError → String
  | settings error => error.message
  | worker error => error.message
  | frame error => error.message
  | invalidView argument => "Invalid --view '" ++ argument ++ "': expected NAME=FILE"
  | unreadable path fault => "Error reading file '" ++ path ++ "': " ++ fault.message

/-- An error of one part as an error of the run. -/
def lift {ε α : Type} (wrap : ε → RunError) (result : Except ε α) : Except RunError α :=
  result.mapError wrap

/-- The query in a file. -/
def readQuery (files : FileTree) (path : String) : Except RunError String :=
  (lift (.unreadable path) (files.readText path)).map Text.trimQuery

/-- Registers the view that an argument describes. -/
def addView (files : FileTree) (session : Session) (argument : String) : Except RunError Session :=
  match splitAtEquals argument.toList with
  | (_, none) => .error (.invalidView argument)
  | (name, some path) => do
    let (view, session) := session.sql (← readQuery files path)
    lift .frame (session.registerView name view)

/-- The frame of a job's query file, in a session with the job's views. -/
def loadQuery (files : FileTree) (session : Session) (job : Job) : Except RunError (Frame × Session) := do
  let session ← job.views.foldlM (addView files) session
  pure (session.sql (← readQuery files job.file))

/-- The settings of a job. -/
def Job.settings (job : Job) (surroundings : Surroundings) : Except RunError Settings :=
  lift .settings
    (match job.config with
    | some path => surroundings.settingsIn path
    | none => surroundings.settings)

/-- The statement of a job's query, printed. -/
def Job.compile (job : Job) (surroundings : Surroundings) (settings : Settings) : Except RunError String := do
  let session := Session.fresh 0 (job.dialect.getD settings.dialect) false
  let (frame, session) ← loadQuery surroundings.files session job
  pure (session.compile frame ++ "\n")

/-- A row, printed. -/
def printRow (row : Row) : String :=
  (Json.array row).render ++ "\n"

/-- What a connected job prints of a frame. -/
def Job.query {σ : Type} (job : Job) (workspace : Workspace σ) (frame : Frame) : Outcome σ String :=
  match job.command with
  | .compile => (.ok (workspace.compile frame ++ "\n"), workspace)
  | .schema => workspace.treeString frame
  | .count =>
    let (count, workspace) := workspace.count frame
    (count.map fun count => toString count ++ "\n", workspace)
  | .head =>
    let (rows, workspace) := workspace.take frame job.rows
    (rows.map fun rows => String.join (rows.map printRow), workspace)

/-- What a job prints that needs a worker, and the conversation with it once it has started. -/
def Job.ask (job : Job) (surroundings : Surroundings) (settings : Settings) :
    Except RunError String × Option Conversation :=
  match surroundings.startConfiguredWorker settings with
  | .error error => (.error (.worker error), none)
  | .ok conversation =>
    match settings.resolveConnection surroundings.environment with
    | .error error => (.error (.settings error), some conversation)
    | .ok connection =>
      let (builder, workspace) :=
        (Workspace.start (.worker connection) conversation).openSession settings.dialect true
      match loadQuery surroundings.files (workspace.session builder) job with
      | .error error => (.error error, some conversation)
      | .ok (frame, session) =>
        let (printed, workspace) := job.query (workspace.put session) frame
        (lift .frame printed, some workspace.state)

/-- What a job prints, and the conversation with a worker if one was started. -/
def Job.run (job : Job) (surroundings : Surroundings) : Except RunError String × Option Conversation :=
  match job.settings surroundings with
  | .error error => (.error error, none)
  | .ok settings =>
    if job.command = .compile then (job.compile surroundings settings, none)
    else job.ask surroundings settings

/-! ### Reports -/

/-- What a program leaves behind. -/
structure Report where
  exitCode : Nat
  output : String
  errors : String
  conversation : Option Conversation

/-- The text shown for a version. -/
def versionText : String := "bqframe 0.1.0\n"

/-- The text shown to someone who asks for help. -/
def helpText : String :=
  String.intercalate "\n"
    ["bqframe - lazy DataFrame-style queries compiled to SQL with CTEs", "",
      "Usage: bqframe [--config <CONFIG>] <COMMAND> [--view <NAME=FILE>] <FILE>", "", "Commands:",
      "  compile  Print the compiled SQL of a query file (--dialect <DIALECT>)",
      "  schema   Print the schema of a query as a tree", "  count    Print the number of rows a query returns",
      "  head     Print the first rows of a query as JSON lines (--rows <ROWS>)", ""]

/-- Runs a program with arguments. -/
def execute (surroundings : Surroundings) (arguments : List String) : Report :=
  match Invocation.ofArguments arguments with
  | .error error => ⟨2, "", "error: " ++ error.message ++ "\n", none⟩
  | .ok .version => ⟨0, versionText, "", none⟩
  | .ok .help => ⟨0, helpText, "", none⟩
  | .ok (.run job) =>
    match job.run surroundings with
    | (.ok printed, conversation) => ⟨0, printed, "", conversation⟩
    | (.error error, conversation) => ⟨1, "", "Error: " ++ error.message ++ "\n", conversation⟩

end QueryFrames.CommandLine
