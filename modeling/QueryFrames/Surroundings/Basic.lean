import QueryFrames.Surroundings.FileTree
import QueryFrames.Settings.Basic
import QueryFrames.Worker.Conversation

/-!
Where a program runs: its environment, the files around it, and the directory in which a user keeps settings.
Settings are taken from the first place that has some, in a fixed order, and a fault in that place is final. The
worker is found in a similar way.
-/

namespace QueryFrames

/-- What a program finds around it; `launches` tells whether it can start others. -/
structure Surroundings where
  environment : Environment
  files : FileTree
  configDirectory : Option String
  launches : Bool
deriving Repr, Inhabited

/-- The variable that names a file with settings. -/
def Settings.variable : String := "BQFRAME_CONFIG"

/-- The file with settings in a working directory. -/
def Settings.localFile : String := "bqframe.toml"

/-- The file with settings in a user's directory. -/
def Settings.userFile (configDirectory : String) : String :=
  FileTree.join (FileTree.join configDirectory "bqframe") "config.toml"

/-- The file name of a worker. -/
def WorkerSettings.fileName : String := "bqframe-worker"

/-- The worker in a working directory. -/
def WorkerSettings.localFile : String := "./bqframe-worker"

namespace Surroundings

/-- The settings in a file. -/
def settingsIn (surroundings : Surroundings) (path : String) : Except SettingsError Settings :=
  if surroundings.files.contains path then
    match surroundings.files.readText path with
    | .ok text => Settings.ofText text
    | .error fault => .error (.unreadable fault)
  else .error (.fileNotFound path)

/-- The file that settings are taken from: the one named by the variable, whether it exists or not, then those
of the working directory and of the user, if they exist. -/
def settingsFile? (surroundings : Surroundings) : Option String :=
  match surroundings.environment.value? Settings.variable with
  | some path => some path
  | none =>
    (Settings.localFile :: (surroundings.configDirectory.map Settings.userFile).toList).find?
      surroundings.files.contains

/-- The settings of a program that is not told where to look. -/
def settings (surroundings : Surroundings) : Except SettingsError Settings :=
  match surroundings.settingsFile? with
  | some path => surroundings.settingsIn path
  | none => .ok .default

/-- The path of the worker. A path in the settings stands, if it can be expanded; else the worker is looked for
in the working directory and then in the directories of the search path. -/
def workerPath? (surroundings : Surroundings) (settings : Settings) : Option String :=
  match settings.worker.path with
  | some path => (surroundings.environment.expand path).toOption
  | none =>
    if surroundings.files.contains WorkerSettings.localFile then some WorkerSettings.localFile
    else
      (surroundings.environment.value? "PATH").bind fun directories =>
        ((FileTree.searchPath directories).map (FileTree.join · WorkerSettings.fileName)).find?
          surroundings.files.isFile

/-- Starts a worker. -/
def startWorker (surroundings : Surroundings) (path : String) (arguments : List String)
    (timeoutSeconds : Nat) : Except WorkerError Conversation :=
  if surroundings.launches then
    match surroundings.files.launch (surroundings.environment.value? "PATH") path arguments with
    | .ok script => .ok (.start script arguments timeoutSeconds)
    | .error fault => .error (.spawnFailed fault)
  else .error (.spawnFailed .noLauncher)

/-- Starts the worker of the settings. -/
def startConfiguredWorker (surroundings : Surroundings) (settings : Settings) :
    Except WorkerError Conversation :=
  match surroundings.workerPath? settings with
  | some path => surroundings.startWorker path settings.worker.arguments settings.worker.timeoutSeconds
  | none => .error (.spawnFailed .noWorkerBinary)

end Surroundings

end QueryFrames
