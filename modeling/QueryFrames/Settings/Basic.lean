import QueryFrames.Surroundings.Environment
import QueryFrames.Dialect
import QueryFrames.Toml.Document
import QueryFrames.Worker.Message

/-!
Settings: which warehouse queries go to, how the worker is started, and which dialect statements are written in.
What a text does not say has a default. A section is read from a table, in which other keys are skipped, or from
an array that holds its values in their order.
-/

namespace QueryFrames

/-- How the worker is started and how long it is waited for. -/
structure WorkerSettings where
  path : Option String
  timeoutSeconds : Nat
  arguments : List String
deriving DecidableEq, Repr

/-- The settings of a program. Variables in the connection string and in the worker's path are not yet expanded. -/
structure Settings where
  connection : Connection
  worker : WorkerSettings
  dialect : Dialect
deriving DecidableEq, Repr

/-- How long a worker is waited for unless settings say otherwise. -/
def WorkerSettings.defaultTimeoutSeconds : Nat := 30

/-- The worker section of settings that do not have one. -/
def WorkerSettings.default : WorkerSettings := ⟨none, defaultTimeoutSeconds, []⟩

/-- The connection section of settings that do not have one. -/
def Connection.default : Connection := ⟨"bigquery", ""⟩

/-- Settings that say nothing. -/
def Settings.default : Settings := ⟨.default, .default, .bigQuery⟩

namespace Toml

/-- A text. -/
def string? : Toml → Option String
  | string value => some value
  | _ => none

/-- A list of texts. -/
def strings? : Toml → Option (List String)
  | array items => items.mapM string?
  | _ => none

/-- A count of seconds. -/
def seconds? : Toml → Option Nat
  | integer value => if 0 ≤ value ∧ value < Int.pow 2 64 then some value.toNat else none
  | _ => none

/-- A dialect: its name, or a table with its name as the only key and nothing in it. -/
def dialect? : Toml → Option Dialect
  | string name => Dialect.ofName? name
  | table [(name, .table [])] => Dialect.ofName? name
  | table [(name, .array [])] => Dialect.ofName? name
  | _ => none

/-- The entries of a table of which some names are meant; the others must be such that they can be skipped. -/
def entries? (names : List String) (members : List (String × Toml)) : Option (List (Option Toml)) :=
  if members.all fun (key, value) => key ∈ names || value.isReadable then
    some (names.map (Keyed.get? · members))
  else none

/-- The values of a section, in the order of their names. A point in time is a section that says nothing. -/
def section? (names : List String) : Toml → Option (List (Option Toml))
  | table members => entries? names members
  | array items => some (names.mapIdx fun place _ => items[place]?)
  | dateTime => some (names.map fun _ => none)
  | _ => none

/-- A value, or its default where there is none. -/
def valueOr {α : Type} (value? : Toml → Option α) (default : α) : Option Toml → Option α
  | some value => value? value
  | none => some default

end Toml

/-- The connection section. -/
def Connection.ofToml? (value : Toml) : Option Connection :=
  match value.section? ["driver", "connection_string"] with
  | some [driver, connectionString] => do
    let driver ← Toml.valueOr Toml.string? Connection.default.driver driver
    let connectionString ← Toml.valueOr Toml.string? Connection.default.connectionString connectionString
    pure ⟨driver, connectionString⟩
  | _ => none

/-- The worker section. -/
def WorkerSettings.ofToml? (value : Toml) : Option WorkerSettings :=
  match value.section? ["path", "timeout_secs", "args"] with
  | some [path, timeout, arguments] => do
    let path ← Toml.valueOr (fun path => path.string?.map some) WorkerSettings.default.path path
    let timeout ← Toml.valueOr Toml.seconds? WorkerSettings.default.timeoutSeconds timeout
    let arguments ← Toml.valueOr Toml.strings? WorkerSettings.default.arguments arguments
    pure ⟨path, timeout, arguments⟩
  | _ => none

/-- The section on compiling, which holds a dialect only. -/
def Settings.dialectOfToml? (value : Toml) : Option Dialect :=
  match value.section? ["dialect"] with
  | some [dialect] => Toml.valueOr Toml.dialect? Settings.default.dialect dialect
  | _ => none

/-- The settings of a configuration. -/
def Settings.ofMembers? (members : List (String × Toml)) : Option Settings :=
  match Toml.entries? ["connection", "worker", "compile"] members with
  | some [connection, worker, compile] => do
    let connection ← Toml.valueOr Connection.ofToml? Settings.default.connection connection
    let worker ← Toml.valueOr WorkerSettings.ofToml? Settings.default.worker worker
    let dialect ← Toml.valueOr Settings.dialectOfToml? Settings.default.dialect compile
    pure ⟨connection, worker, dialect⟩
  | _ => none

/-- The settings of a configuration text. -/
def Settings.ofText (text : String) : Except SettingsError Settings :=
  match (Toml.ofText? text).bind Settings.ofMembers? with
  | some settings => .ok settings
  | none => .error .malformed

/-- The connection with the variables in its connection string expanded. -/
def Settings.resolveConnection (settings : Settings) (environment : Environment) :
    Except SettingsError Connection := do
  let connectionString ← environment.expand settings.connection.connectionString
  pure { settings.connection with connectionString }

end QueryFrames
