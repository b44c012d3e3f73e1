import QueryFrames.CommandLine.Run

/-!
What a run may look at, so that it can be gathered beforehand: the files with settings, those named by the
arguments, and the places where a worker can be. A run on what was gathered sees of these what is there.
-/

namespace QueryFrames.CommandLine

/-- The definitions of an environment as a process receives them, each ended by a zero byte. -/
def environmentOfBytes (bytes : List UInt8) : Environment :=
  (bytes.splitOn 0).filterMap fun definition =>
    match (Output.decode? definition).map fun text => splitAtEquals text.toList with
    | some (name, some value) => some (name, value)
    | _ => none

/-- The directory in which a user keeps settings. -/
def userDirectory? (environment : Environment) : Option String :=
  match (environment.value? "XDG_CONFIG_HOME").filter (·.startsWith "/") with
  | some directory => some directory
  | none => (environment.value? "HOME").map (FileTree.join · ".config")

/-- The files that arguments name. -/
def namedFiles (arguments : List String) : List String :=
  match Invocation.ofArguments arguments with
  | .ok (.run job) =>
    job.config.toList ++ job.file :: job.views.filterMap fun view => (splitAtEquals view.toList).2
  | _ => []

/-- All paths that a run may follow. -/
def wantedPaths (environment : Environment) (arguments : List String) : List String :=
  (environment.value? Settings.variable).toList ++
    Settings.localFile :: WorkerSettings.localFile ::
      ((userDirectory? environment).map Settings.userFile).toList ++
    (((environment.value? "PATH").map FileTree.searchPath).getD []).map
      (FileTree.join · WorkerSettings.fileName) ++
    namedFiles arguments

/-- The paths that lead to a path, itself included. -/
def leadingPaths (path : String) : List String :=
  let names := FileTree.names path.toList
  let root := if path.startsWith "/" then "/" else ""
  names.mapIdx fun place _ => root ++ String.intercalate "/" (names.take (place + 1))

/-- The surroundings made of what was found under paths. No program can be started in them. -/
def gathered (workingDirectory : String) (environment : Environment) (found : List (String × FileEntry)) :
    Surroundings :=
  let tree : FileTree := ⟨FileTree.names workingDirectory.toList, []⟩
  { environment
    files := { tree with entries := found.map fun (path, entry) => (tree.place path, entry) }
    configDirectory := userDirectory? environment
    launches := false }

end QueryFrames.CommandLine
