import QueryFrames.Json.Decode
import QueryFrames.Json.Writer
import QueryFrames.Schema.Json
import QueryFrames.Session.Execution

/-!
The messages between a client and its worker: one JSON object to a line in each direction. A request carries an
id, which the worker repeats in its response, so that several requests can be under way at once.
-/

namespace QueryFrames

/-! ### Requests -/

/-- Which warehouse a query goes to. -/
structure Connection where
  driver : String
  connectionString : String
deriving DecidableEq, Repr

/-- What a worker is asked to do. -/
structure Request where
  method : String
  params : Json

/-- The method that executes a query. -/
def Request.executeMethod : String := "query.execute"

/-- The parameters of a query; whether it is a dry run is only said when it is one. -/
def Connection.params (connection : Connection) (sql : String) (dryRun : Bool) : Json :=
  .object ([("driver", .string connection.driver), ("connection_string", .string connection.connectionString),
    ("sql", .string sql)] ++ if dryRun then [("dry_run", .bool true)] else [])

/-- The request to execute a query. -/
def Connection.request (connection : Connection) (sql : String) (dryRun : Bool) : Request :=
  ⟨Request.executeMethod, connection.params sql dryRun⟩

/-- A request under an id as one line of text, without the line feed; parameters are sorted by name. -/
def Request.line (request : Request) (id : String) : String :=
  Json.render (.object [("id", .string id), ("method", .string request.method),
    ("params", request.params.sorted)])

/-- What is written for a request under an id. -/
def Request.written (request : Request) (id : String) : String :=
  request.line id ++ "\n"

/-! ### Responses -/

/-- Why a worker says that it failed. -/
structure ErrorReport where
  code : String
  message : String
deriving DecidableEq, Repr

/-- What a worker answers to the request of an id. -/
structure Response where
  id : String
  success : Bool
  result : Option Json
  error : Option ErrorReport

/-- A failure report read from a source. -/
def ErrorReport.ofSource? (source : Json.Source) : Option ErrorReport :=
  match source.record? ["code", "message"] with
  | some [some code, some message] => do pure ⟨← code.string?, ← message.string?⟩
  | _ => none

/-- A response read from a source. -/
def Response.ofSource? : Nat → Json.Source → Option Response
  | 0, _ => none
  | depth + 1, source =>
    match source.record? ["id", "success", "result", "error"] with
    | some [some id, some success, result, error] => do
      let id ← id.string?
      let success ← success.bool?
      let result ← (result.getD .null).nullable? (Json.Source.toJson? depth)
      let error ← (error.getD .null).nullable? ErrorReport.ofSource?
      pure ⟨id, success, result, error⟩
    | _ => none

/-- The response on a line; a line that holds none is no response. -/
def Response.ofLine? (line : String) : Option Response :=
  (Json.Source.ofText? line).bind (Response.ofSource? Json.nestingLimit)

/-- The result that a response carries, null if it names none, or the error it reports. -/
def Response.outcome (response : Response) : Except WorkerError Json :=
  if response.success then .ok (response.result.getD .null)
  else
    match response.error with
    | some report => .error (.classify report.code report.message)
    | none => .error (.remote "UNKNOWN" "worker reported failure without details")

/-- What waiting requests are answered when the worker is gone. -/
def Response.workerExited (id : String) : Response :=
  ⟨id, false, none, some ⟨"WORKER_EXITED", "worker process exited"⟩⟩

/-! ### Query results -/

/-- A query result read from a source; without rows it has none. -/
def QueryResult.ofSource? : Nat → Json.Source → Option QueryResult
  | 0, _ => none
  | depth + 1, source =>
    match source.record? ["schema", "rows"] with
    | some [some schema, rows] => do
      let schema ← Schema.ofSource? depth schema
      let rows ←
        match rows with
        | none => some []
        | some rows => rows.list? (Json.Source.list? Json.Source.toJson?) depth
      pure ⟨schema, rows⟩
    | _ => none

/-- A query result read from JSON text. -/
def QueryResult.ofText? (text : String) : Option QueryResult :=
  (Json.Source.ofText? text).bind (QueryResult.ofSource? Json.nestingLimit)

/-- The query result that a response carried. -/
def QueryResult.decode (result : Json) : Except WorkerError QueryResult :=
  match QueryResult.ofSource? Json.nestingLimit (.ofJson result) with
  | some result => .ok result
  | none => .error (.decodeFailed "not a query result")

end QueryFrames
