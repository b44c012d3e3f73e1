import QueryFrames.Proofs.Expansion
import QueryFrames.Proofs.Layout
import QueryFrames.Surroundings.Basic

/-! Where settings and the worker come from. There are three places of settings in a fixed order, and the first one in
which anything is found decides: what lies behind it is never looked at, and a fault in it is the answer. A worker's
path in the settings is looked up in the environment only, and without one the worker is searched for in a fixed order
as well. -/

namespace QueryFrames

/-! ### What is found at a path -/

/-- What is found where settings may be: nothing, a path that was asked for and leads nowhere, something that cannot be
read as a text, or a text. -/
inductive Finding where
  | absent
  | missing (path : String)
  | unreadable (fault : IoFault)
  | readable (text : String)
deriving DecidableEq

namespace Finding

variable {finding : Finding}

/-- What a finding says the settings are. Where nothing is found, they are the defaults. -/
def settings : Finding → Except SettingsError Settings
  | absent => .ok .default
  | missing path => .error (.fileNotFound path)
  | unreadable fault => .error (.unreadable fault)
  | readable text => Settings.ofText text

/-- A finding at a path that was asked for. -/
def orMissing (path : String) : Finding → Finding
  | absent => missing path
  | finding => finding

end Finding

/-- What is found where an entry is. -/
def FileEntry.finding : FileEntry → Finding
  | directory => .unreadable .isADirectory
  | locked => .unreadable .permissionDenied
  | program _ => .unreadable .notUtf8
  | file content =>
    match Output.decode? content with
    | some text => .readable text
    | none => .unreadable .notUtf8

namespace FileTree

variable {tree : FileTree} {entry : FileEntry} {fault : IoFault} {path text : String} {entries : List String}

/-- What is found at a path. -/
def finding (tree : FileTree) (path : String) : Finding :=
  match tree.resolve path with
  | .ok entry => entry.finding
  | .error _ => .absent

end FileTree

/-! ### Places of settings -/

/-- A place in which settings may be. -/
inductive SettingsPlace where
  | byVariable
  | inWorkingDirectory
  | inUserDirectory
deriving DecidableEq

/-- The places that are looked at before a place. -/
def SettingsPlace.before : SettingsPlace → List SettingsPlace
  | byVariable => []
  | inWorkingDirectory => [byVariable]
  | inUserDirectory => [byVariable, inWorkingDirectory]

namespace Surroundings

variable {surroundings first second : Surroundings} {place : SettingsPlace} {settings settings' : Settings}
  {path : String}

/-- The path to which a place leads, if it leads anywhere. -/
def path? (surroundings : Surroundings) : SettingsPlace → Option String
  | .byVariable => surroundings.environment.value? Settings.variable
  | .inWorkingDirectory => some Settings.localFile
  | .inUserDirectory => surroundings.configDirectory.map Settings.userFile

/-- What is found in a place. The path in the variable is asked for, so it is missed if it leads nowhere; in the other
places there need not be anything. -/
def finding (surroundings : Surroundings) (place : SettingsPlace) : Finding :=
  match surroundings.path? place with
  | none => .absent
  | some path =>
    if place = .byVariable then (surroundings.files.finding path).orMissing path
    else surroundings.files.finding path

end Surroundings

/-! ### A directory in the way

Where the settings of the working directory should be there is a directory, and behind it are settings of the user. The
first directory of the search path has a directory under the name of the worker as well. -/

namespace Obstructed

open Expansion

def surroundings (user : String) (more : List (List String × FileEntry)) : Surroundings where
  environment := [("PATH", "a:b"), ("TOOLS", "/opt")]
  files :=
    ⟨["work"], [(["work", "bqframe.toml"], .directory),
      (["work", "xdg", "bqframe", "config.toml"], .file (Output.encode user)),
      (["work", "a", "bqframe-worker"], .directory), (["work", "b", "bqframe-worker"], .locked)] ++ more⟩
  configDirectory := some "xdg"
  launches := false

/-- The settings of the user are none, and the working directory has something under the name of the worker. -/
def malformed : Surroundings := surroundings "dialect =" [(["work", "bqframe-worker"], .directory)]

/-- Nothing but a variable. -/
def bare : Surroundings := ⟨[("TOOLS", "/opt")], ⟨["work"], []⟩, none, false⟩

end Obstructed

end QueryFrames
