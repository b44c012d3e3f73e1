import QueryFrames.Keyed
import QueryFrames.Worker.Error
import QueryFrames.Worker.Script

/-!
Files under a working directory, and paths that lead to them. A path is followed one name after the other; every
name but the last has to be that of a directory, and so does the last one if a slash follows it.
-/

namespace QueryFrames

/-- What a name in a directory stands for. A locked file is there, but may not be read. -/
inductive FileEntry where
  | directory
  | file (content : List UInt8)
  | program (script : Script)
  | locked
deriving DecidableEq, Repr

/-- Entries by the names that lead to them from the root, and the names that lead to the working directory. -/
structure FileTree where
  workingDirectory : List String
  entries : List (List String × FileEntry)
deriving Repr, Inhabited

namespace FileTree

/-- What is there in every tree: the usual directories, and the files that are always empty. -/
def standing : List (List String × FileEntry) :=
  [["bin"], ["boot"], ["dev"], ["etc"], ["home"], ["lib"], ["media"], ["mnt"], ["opt"], ["proc"], ["root"], ["run"],
    ["sbin"], ["srv"], ["sys"], ["tmp"], ["usr", "bin"], ["usr", "lib"], ["usr", "local", "bin"], ["usr", "sbin"],
    ["usr", "share"], ["var"]].map (·, .directory) ++
  [["dev", "null"], ["dev", "stdin"]].map (·, .file [])

/-- What the names lead to; directories that only hold something need no entry of their own. -/
def entry? (tree : FileTree) (place : List String) : Option FileEntry :=
  let entries := tree.entries ++ standing
  match Keyed.get? place entries with
  | some entry => some entry
  | none =>
    if (tree.workingDirectory :: Keyed.keys entries).any (place.isPrefixOf ·) then some .directory else none

/-- The names in a path; a slash at its end asks for the directory itself. -/
def names (path : List Char) : List String :=
  ((path.splitOn '/').filter (· ≠ []) ++ if path.getLast? = some '/' then [['.']] else []).map String.ofList

/-- The place that a path names, whether anything is there or not. -/
def place (tree : FileTree) (path : String) : List String :=
  (names path.toList).foldl
    (fun place name => if name = "." then place else if name = ".." then place.dropLast else place ++ [name])
    (if path.toList.head? = some '/' then [] else tree.workingDirectory)

/-- The longest name in a directory, in bytes. -/
def nameLimit : Nat := 255

/-- Follows names from a place; the last name tells what the place holds. -/
def follow (tree : FileTree) (place : List String) : List String → Except IoFault FileEntry
  | [] =>
    match tree.entry? place with
    | some entry => .ok entry
    | none => .error .notFound
  | name :: names =>
    match tree.entry? place with
    | none => .error .notFound
    | some .directory =>
      if name = "." then tree.follow place names
      else if name = ".." then tree.follow place.dropLast names
      else if nameLimit < name.utf8ByteSize then .error .nameTooLong
      else tree.follow (place ++ [name]) names
    | some _ => .error .notADirectory

/-- The longest path, in bytes. -/
def pathLimit : Nat := 4095

/-- What a path leads to. -/
def resolve (tree : FileTree) (path : String) : Except IoFault FileEntry :=
  if '\x00' ∈ path.toList then .error .holdsNul
  else if path = "" then .error .notFound
  else if pathLimit < path.utf8ByteSize then .error .nameTooLong
  else tree.follow (if path.toList.head? = some '/' then [] else tree.workingDirectory) (names path.toList)

/-- Whether a path leads to anything. -/
def contains (tree : FileTree) (path : String) : Bool :=
  (tree.resolve path).isOk

/-- Whether a path leads to something other than a directory. -/
def isFile (tree : FileTree) (path : String) : Bool :=
  match tree.resolve path with
  | .ok (.file _) | .ok (.program _) | .ok .locked => true
  | _ => false

/-- The text of a file. -/
def readText (tree : FileTree) (path : String) : Except IoFault String := do
  match ← tree.resolve path with
  | .directory => .error .isADirectory
  | .file content =>
    match Output.decode? content with
    | some text => .ok text
    | none => .error .notUtf8
  | .program _ => .error .notUtf8
  | .locked => .error .permissionDenied

/-! ### Programs -/

/-- The directories of a search path. -/
def searchPath (directories : String) : List String :=
  (directories.toList.splitOn ':').map String.ofList

/-- The path of a name in a directory; an empty directory is the working directory. -/
def join (directory name : String) : String :=
  if directory = "" then name
  else if directory.toList.getLast? = some '/' then directory ++ name
  else directory ++ "/" ++ name

/-- The program that a path leads to. -/
def program (tree : FileTree) (path : String) : Except IoFault Script := do
  match ← tree.resolve path with
  | .program script => .ok script
  | _ => .error .permissionDenied

/-- The path that is tried for a name in a directory. Of a name that is too long only as much is taken as shows it. -/
def candidate (directory name : String) : String :=
  let name := String.ofList (name.toList.take (nameLimit + 1))
  if directory = "" then name else directory ++ "/" ++ name

/-- The first program of that name in some directories. What is no program is passed over, but a name that is too
long ends the search. If nothing is found, a permission that was denied is reported before the last fault. -/
def search (tree : FileTree) (name : String) : List String → Except IoFault Script
  | [] => .error .notFound
  | [directory] => tree.program (candidate directory name)
  | directory :: directories =>
    match tree.program (candidate directory name) with
    | .ok script => .ok script
    | .error .nameTooLong => .error .nameTooLong
    | .error fault =>
      match tree.search name directories with
      | .ok script => .ok script
      | .error .nameTooLong => .error .nameTooLong
      | .error later => .error (if fault = .permissionDenied then fault else later)

/-- The directories that are searched in fact. One that is too long for a path is left out if it is the last, and else
gives its place to the working directory. -/
def searched : List String → List String
  | [] => []
  | [directory] => if pathLimit < directory.utf8ByteSize then [] else [directory]
  | directory :: directories =>
    (if pathLimit < directory.utf8ByteSize then "" else directory) :: searched directories

/-- Where programs are searched for without a search path. -/
def defaultSearchPath : String := "/bin:/usr/bin"

/-- The program of a name, which is a path if it has a slash in it. -/
def launch (tree : FileTree) (directories : Option String) (name : String) (arguments : List String) :
    Except IoFault Script :=
  if (name :: arguments).any ('\x00' ∈ ·.toList) then .error .holdsNul
  else if name = "" then .error .notFound
  else if '/' ∈ name.toList then tree.program name
  else tree.search name (searched (searchPath (directories.getD defaultSearchPath)))

end FileTree

end QueryFrames
