import LaunchSupervisor.Files.Basic
import LaunchSupervisor.Text.Blank
import LaunchSupervisor.Text.Lines
import LaunchSupervisor.Text.Number

/-!
**The processes that a command turned into.** The system shows each process as a directory with its
command line and its children. The tree below a process is walked in pre-order, each process once
and at most `limit` of them, and the names of the programs are listed.

* `walk_step_known`, `walk_step_fresh`: what the walk does with the next process.
-/

namespace LaunchSupervisor

/-- Commands in the order in which they were found. -/
structure CommandList where
  commands : List String := []
deriving DecidableEq

namespace CommandList

/-- Adds a command that is not empty and not there yet; tells whether it was added. -/
def add (list : CommandList) (command : String) : Bool × CommandList :=
  if command = "" ∨ command ∈ list.commands then (false, list)
  else (true, ⟨list.commands ++ [command]⟩)

/-- The list of some commands. -/
def ofCommands (commands : List String) : CommandList :=
  commands.foldl (fun list command => (list.add command).2) {}

/-- The commands with a line feed between neighbours. -/
def join (list : CommandList) : String :=
  .ofList (Text.joinLines (list.commands.map String.toList))

end CommandList

namespace ProcessTree

/-- The number of processes that are looked at unless something else is said. -/
def standardLimit : Nat := 1024

/-- The most of a command line that is looked at. -/
def longestCommandLine : Nat := 4095

/-- Where the system shows its processes. -/
def systemRoot : Path := .ofString "/proc"

/-! ### The walk -/

/-- The processes walked, newest first, when those on the worklist are still to come. -/
def walkFrom (children : Int → List Int) (limit : Nat) (visited : List Int) :
    List Int → List Int
  | [] => visited
  | pid :: rest =>
    if pid ≤ 0 ∨ pid ∈ visited then walkFrom children limit visited rest
    else if limit ≤ visited.length then visited
    else walkFrom children limit (pid :: visited) (children pid ++ rest)
termination_by worklist => (limit - visited.length, worklist.length)

/-- The processes at and below one, in pre-order. -/
def walk (children : Int → List Int) (limit : Nat) (pid : Int) : List Int :=
  (walkFrom children limit [] [pid]).reverse

theorem walk_step_known (children : Int → List Int) (limit : Nat) (visited rest : List Int)
    {pid : Int} (skipped : pid ≤ 0 ∨ pid ∈ visited) :
    walkFrom children limit visited (pid :: rest) = walkFrom children limit visited rest := by
  rw [walkFrom, if_pos skipped]

theorem walk_step_fresh (children : Int → List Int) {limit : Nat} {visited : List Int}
    (rest : List Int) {pid : Int} (fresh : ¬ (pid ≤ 0 ∨ pid ∈ visited))
    (room : visited.length < limit) :
    walkFrom children limit visited (pid :: rest) =
      walkFrom children limit (pid :: visited) (children pid ++ rest) := by
  rw [walkFrom, if_neg fresh, if_neg (Nat.not_le.mpr room)]

/-! ### What the system shows of a process -/

variable {φ : Type} [FileSystem φ]

/-- The directory of a process. -/
def directory (root : Path) (pid : Int) : Path :=
  root.child (toString pid)

/-- The program name on a command line: its bytes before the first zero, if there are any. -/
def programName? (commandLine : List UInt8) : Option String :=
  let name := (commandLine.take longestCommandLine).takeWhile (· != 0)
  if name.isEmpty then none else some (Utf8.lossyString name)

/-- The program name of a process. -/
def command? (files : φ) (root : Path) (pid : Int) : Option String :=
  match FileSystem.read files ((directory root pid).child "cmdline") with
  | .ok commandLine => programName? commandLine
  | .error _ => none

/-- The file that lists the children of a process. -/
def childrenFile (root : Path) (pid : Int) : Path :=
  (((directory root pid).child "task").child (toString pid)).child "children"

/-- The children of a process, in the order in which they are listed. -/
def children (files : φ) (root : Path) (pid : Int) : List Int :=
  match FileSystem.readText files (childrenFile root pid) with
  | .ok text => ((Text.words text.toList).filterMap Text.signed32?).filter (0 < ·)
  | .error _ => []

/-- The programs that run at and below a process. -/
def commands (files : φ) (root : Path) (limit : Nat) (pid : Int) : CommandList :=
  .ofCommands ((walk (children files root) limit pid).filterMap (command? files root))

/-- The programs that run at and below a process of the system. -/
def snapshot (files : φ) (pid : Int) : CommandList :=
  commands files systemRoot standardLimit pid

end ProcessTree

end LaunchSupervisor
