import Scaffold.CommandLine.Consulted
/-!
The command line itself.  The files that a run consults are read first, the run is worked out, and
what it changed is written; then what it tells is printed.
-/

namespace Scaffold.CommandLine

def entryOnDisk (place : Place) : IO (Option FileEntry) := do
  let path := (← IO.currentDir) / ("/" ++ "/".intercalate place)
  if ← path.isDir then return some .directory
  else if ← path.pathExists then return some (.file (← IO.FS.readBinFile path))
  else return none

/-- The tree with the entry that the disk has at a place. -/
def learn (disk : FileTree) (place : Place) : IO FileTree := do
  match disk.entry? place with
  | some _ => return disk
  | none =>
    match ← entryOnDisk place with
    | some e => return disk.set place e
    | none => return disk

/-- What is to be known of the disk for a run: the project and the settings name further files. -/
def survey (argv : List String) (environment : List (String × String)) : IO FileTree := do
  let here ← IO.currentDir
  let names := (FilePath.ofString here.toString).parts
  let mut disk := FileTree.emptyAt names
  for _ in [0, 1] do
    for path in consulted argv environment disk do
      disk ← (placesAlong names path).foldlM learn disk
  return disk

def leave (place : Place) (e : FileEntry) : IO Unit := do
  let path := (← IO.currentDir) / ("/" ++ "/".intercalate place)
  match e with
  | .directory => IO.FS.createDirAll path
  | .file content => IO.FS.writeBinFile path content

/-- Leaves on the disk what a run changed, older entries first. -/
def leaveChanges (before after : FileTree) : IO Unit := do
  for (place, e) in after.entries.reverse do
    if before.entry? place ≠ some e then leave place e

def printNotices (notices : List Console.Notice) : IO Unit := do
  for notice in notices do
    match notice.printed with
    | .ok text => IO.print text
    | .error e => throw (IO.userError e.message)

/-- Prints how a run ended and gives its status. -/
def finish : Ending → IO UInt32
  | .exit status => return status.toUInt32
  | .help => do
    IO.print helpText
    return 0
  | .usage e => do
    IO.eprint e.report
    return 2
  | .interrupted cause => throw (IO.userError cause.message)

end Scaffold.CommandLine

open Scaffold Scaffold.CommandLine in
def main (argv : List String) : IO UInt32 := do
  let started ← IO.monoMsNow
  let environment ← Settings.variableNames.filterMapM fun name => do
    return (← IO.getEnv name).map fun value => (name, value)
  let disk ← survey argv environment
  let after := (run .terminal argv environment (.whole 0) disk).2
  leaveChanges disk after
  let took := (← IO.monoMsNow) - started
  let outcome := (run .terminal argv environment (.real (.ofFraction false took 1000)) disk).1
  printNotices outcome.notices
  finish outcome.ending
