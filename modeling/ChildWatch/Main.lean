import ChildWatch.Machine.Surroundings

/-! # The command line

Runs the program with the arguments, the environment and the configuration files it finds. The child
runs on the machine of this library. -/

namespace ChildWatch

/-- The variables that the program looks at. -/
def watchedVariables : List String :=
  [SearchPath.fileVariable, SearchPath.directoryVariable, SearchPath.homeVariable,
    Journal.Filter.filterVariable, Journal.Filter.debugVariable, Machine.pathVariable]

/-- The variables that are set. -/
def environmentOf (names : List String) : IO Environment := do
  let found ← names.mapM fun name => do return (name, ← IO.getEnv name)
  return found.filterMap fun (name, value) => value.map fun v => (name, v)

/-- What stands at a path, if anything. -/
def entryAt (path : String) : IO (Option FileEntry) := do
  try
    let bytes ← IO.FS.readBinFile path
    return some (.file bytes.toList false)
  catch _ => return none

/-- The files at some paths, taken from a directory. -/
def entriesAt (directory : String) (paths : List String) :
    IO (List (List String × FileEntry)) := do
  let found ← paths.mapM fun path => do
    let path := Path.join directory path
    return (Path.names path, ← entryAt path)
  return found.filterMap fun (place, entry) => entry.map fun e => (place, e)

end ChildWatch

open ChildWatch in
def main (arguments : List String) : IO UInt32 := do
  let environment ← environmentOf watchedVariables
  let directory := (← IO.currentDir).toString
  let asked := match CommandLine.Options.parse arguments with
    | .ok o => o.configPath.toList
    | .error _ => []
  let paths := asked ++ SearchPath.of environment "/root" directory
  let here := Path.names directory
  let files : FileTree := ⟨(here, .directory) :: (← entriesAt directory paths), here⟩
  let transcript := Machine.runProgram ⟨arguments, environment, "/root", directory, files⟩
  let stdout ← IO.getStdout
  let stderr ← IO.getStderr
  stderr.write (ByteArray.mk (transcript.shown.flatMap Machine.Shown.bytesOf).toArray)
  stdout.write (ByteArray.mk transcript.printed.toArray)
  return UInt32.ofNat (transcript.code.getD CommandLine.exitFailed)
