import LaunchSupervisor.Files.Disk
import LaunchSupervisor.ProcessTree

/-!
**The processes of a command, as files show them.** A system shows a process as a directory with its
command line and its children; here every process of a command is a child of the one that was
launched.
-/

namespace LaunchSupervisor.Trial

/-- A process and the program it runs. -/
structure Running where
  process : Nat
  program : List UInt8
deriving DecidableEq

namespace Running

/-- The processes once one of them, perhaps a new one, runs a program. -/
def become (all : List Running) (process : Nat) (program : List UInt8) : List Running :=
  if all.any (·.process == process) then
    all.map fun running => if running.process = process then ⟨process, program⟩ else running
  else all ++ [⟨process, program⟩]

/-- The processes once one of them is over. -/
def vanish (all : List Running) (process : Nat) : List Running :=
  all.filter (·.process != process)

/-- The file of the system that shows a process's command line. -/
def commandLineFile (process : Nat) : Path :=
  (ProcessTree.directory ProcessTree.systemRoot process).child "cmdline"

/-- Files that also show a process. -/
def shown (files : Disk) (running : Running) : Disk :=
  files.withFile (commandLineFile running.process) (running.program ++ [0])

/-- The list of children that the system shows for a process with these others. -/
def childrenText (launched : Nat) (all : List Running) : String :=
  String.join ((vanish all launched).map fun running => toString running.process ++ " ")

/-- Files that also show the processes, those of the one that was launched as its children. -/
def shownIn (files : Disk) (launched : Nat) (all : List Running) : Disk :=
  (all.foldl shown files).withFile (ProcessTree.childrenFile ProcessTree.systemRoot launched)
    (Utf8.bytes (childrenText launched all))

end Running

end LaunchSupervisor.Trial
