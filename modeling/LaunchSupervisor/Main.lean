import LaunchSupervisor.IconCache.Tool
import LaunchSupervisor.Trial.Run

/-!
**The program.** Called with `cache` it is the cache tool, called with anything else it tries out
what the supervisor does with that command line and a launcher's answers. The paths of the files it
may work on come on standard input, one on each line: they are copied in before the run, and what
has changed is copied out after it.
-/

namespace LaunchSupervisor.Program

/-- The files that changed from one state to another, with their new contents and modes. -/
def changed (before after : Disk) : List (Path × List UInt8 × Nat) :=
  (after.filesBelow []).filter fun file => !(before.filesBelow []).contains file

/-- The files of one state that another has lost. -/
def removed (before after : Disk) : List Path :=
  let left := (after.filesBelow []).map (·.1)
  ((before.filesBelow []).map (·.1)).filter fun path => !left.contains path

/-- A path from the root on, as text. -/
def rooted (path : Path) : String :=
  "/" ++ path.display

/-! ### The outer layer -/

/-- Copies a file in, if it can be read. -/
def copyIn (disk : Disk) (name : String) : IO Disk := do
  try
    let contents ← IO.FS.readBinFile name
    return disk.withFile (.ofString name) contents.data.toList
  catch _ => return disk

/-- Copies out what has changed. -/
def copyOut (before after : Disk) : IO Unit := do
  for path in removed before after do
    IO.FS.removeFile (rooted path)
  for (path, contents, mode) in changed before after do
    for directory in path.parent? do
      IO.FS.createDirAll (rooted directory)
    IO.FS.writeBinFile (rooted path) ⟨contents.toArray⟩
    if mode = Disk.ownerOnlyMode then
      IO.setAccessRights (rooted path) ⟨⟨true, true, false⟩, {}, {}⟩

/-- The variables that are looked at. -/
def variableNames : List String :=
  ["DTEXEC_ACTION_ICON_CACHE_LOG", "DTWM_ACTION_ICON_CACHE_LOG", "DTEXEC_LOG", "DTEXEC_CONFIG",
    "DTEXEC_BUS_SOCKET", "HOME", "LANG"]

/-- The environment of the process. -/
def environment : IO Environment := do
  let values ← variableNames.mapM fun name => return (name, ← IO.getEnv name)
  return .ofLookup fun name => (values.lookup name).join

/-- Writes to an output of the process. -/
def put (stream : IO.FS.Stream) (bytes : List UInt8) : IO Unit := do
  stream.write ⟨bytes.toArray⟩
  stream.flush

/-- Leaves the results of a run behind. -/
def finish (before after : Disk) (output complaint : List UInt8) (code : Int) : IO UInt32 := do
  put (← IO.getStdout) output
  put (← IO.getStderr) complaint
  copyOut before after
  return .ofNat code.toNat

end LaunchSupervisor.Program

open LaunchSupervisor in
/-- Runs the program. -/
def main (arguments : List String) : IO UInt32 := do
  let environment ← Program.environment
  let names ← (try IO.FS.lines "/dev/stdin" catch _ => return #[])
  let files ← names.foldlM Program.copyIn Disk.empty
  match arguments with
  | "cache" :: rest =>
    let (answer, after) := IconCache.Tool.run files environment [] (rest.map Utf8.bytes)
    Program.finish files after (Utf8.bytes answer.output) (Utf8.bytes answer.complaint) answer.code
  | all =>
    let world : World := { files, environment, launcher := some .handle }
    let done := Trial.run world (Utf8.bytes "dtexec") (all.map Utf8.bytes)
    Program.finish files done.files done.output done.complaint (done.code.getD 0)
