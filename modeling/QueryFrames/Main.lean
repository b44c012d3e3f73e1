import QueryFrames.CommandLine.Snapshot

/-!
The program. It gathers what its run may look at, runs on that, and prints what the run leaves behind.
-/

namespace QueryFrames.CommandLine

/-- What a path leads to, if anything. -/
def lookUp (path : String) : IO (Option FileEntry) := do
  let file := (← IO.currentDir) / path
  if ← file.isDir then return some .directory
  try
    return some (.file (← IO.FS.readBinFile file).toList)
  catch _ => return if ← file.pathExists then some .locked else none

/-- The environment the program was started with. -/
def readEnvironment : IO Environment := do
  try
    return environmentOfBytes (← IO.FS.readBinFile "/proc/self/environ").toList
  catch _ => return []

/-- Gathers the surroundings, runs, and prints. -/
def runProgram (arguments : List String) : IO UInt32 := do
  let environment ← readEnvironment
  let paths := (wantedPaths environment arguments).flatMap leadingPaths
  let found ← paths.filterMapM fun path => do
    return (← lookUp path).map (path, ·)
  let report := execute (gathered (← IO.currentDir).toString environment found) arguments
  IO.print report.output
  IO.eprint report.errors
  return UInt32.ofNat report.exitCode

end QueryFrames.CommandLine

/-- Runs the program. -/
def main (arguments : List String) : IO UInt32 :=
  QueryFrames.CommandLine.runProgram arguments
