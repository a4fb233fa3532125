import LaunchSupervisor.Launch
import LaunchSupervisor.Trial.Shell.Run

/-!
**Commands of a trial.** A trial knows a shell and a command that does nothing; a process that is to
become anything else says that it cannot, and is over.

* `finish_mem_deedsOf`: every command comes to an end.
-/

namespace LaunchSupervisor.Trial

/-- The name of a program, which may be given with the directory it lies in. -/
def programName (name : List Char) : List Char :=
  if "/usr/bin/".toList.isPrefixOf name then name.drop 9
  else if "/bin/".toList.isPrefixOf name then name.drop 5
  else name

/-- A run of a program, by the texts of its arguments, if it is known. -/
def known? (name : List Char) (arguments : List (List Char)) : Option Shell.State :=
  match String.ofList (programName name), arguments with
  | "true", _ => some { program := name, name, arguments := [] }
  | "sh", ['-', 'c'] :: text :: zero :: arguments => some (Shell.final name zero text arguments)
  | "sh", [['-', 'c'], text] => some (Shell.final name name text [])
  | _, _ => none

/-- How long a process takes until it does something, in milliseconds. -/
def startDelay : Nat := 1

/-- The deeds of a run that has ended, with its beginning and its end. -/
def closed (state : Shell.State) : List Timed :=
  ⟨0, .become Shell.commandPid (Utf8.encode state.program)⟩ :: state.deeds ++
    [⟨max state.now state.latest, .silence⟩, ⟨state.now, .finish⟩]

/-- The deeds of a process that is to become a command. -/
def deedsOf (plan : ExecPlan) : List Timed :=
  let texts := plan.argv.map Utf8.decodeLossy
  let deeds :=
    match known? (texts.headD []) texts.tail with
    | some state => closed state
    | none => [⟨0, .complaint plan.refusal⟩, ⟨0, .silence⟩, ⟨0, .finish⟩]
  schedule (deeds.map fun timed => { timed with time := startDelay + timed.time })

theorem finish_mem_deedsOf (plan : ExecPlan) :
    ∃ timed ∈ deedsOf plan, timed.deed = .finish := by
  unfold deedsOf
  dsimp only
  split
  · rename_i state _
    refine ⟨⟨startDelay + state.now, .finish⟩, ?_, rfl⟩
    rw [mem_schedule]
    exact List.mem_map.mpr ⟨⟨state.now, .finish⟩, by simp [closed], rfl⟩
  · refine ⟨⟨startDelay + 0, .finish⟩, ?_, rfl⟩
    rw [mem_schedule]
    exact List.mem_map.mpr ⟨⟨0, .finish⟩, by simp, rfl⟩

end LaunchSupervisor.Trial
