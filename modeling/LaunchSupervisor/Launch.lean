import LaunchSupervisor.CommandLine
import LaunchSupervisor.Tunables.Basic

/-!
**Launching the command.** A launch never fails outright: whatever goes wrong becomes an outcome, so
that the caller is told in any case. Only a lack of resources is waited out, and only between two
tries.

* `spawnWithin_settled`: the tries end with the first that settles it.
* `launch_noCommand`: without a command nothing is spawned.
-/

namespace LaunchSupervisor

/-- Why a process could not be made. -/
inductive SpawnFault where
  /-- Resources are short; trying again may help. -/
  | again
  /-- Any other cause, by its name. -/
  | refused (cause : String)
deriving DecidableEq

/-- Why a command cannot be executed as it stands. -/
inductive PlanFault where
  | emptyCommand
  /-- An argument holds a zero byte, so many bytes from its start. -/
  | zeroByte (position : Nat)
deriving DecidableEq

/-- How a fault is reported. -/
def PlanFault.message : PlanFault → String
  | .emptyCommand => "Launch failed: empty command vector"
  | .zeroByte position =>
    "Launch failed: argument contains NUL: nul byte found in provided data at position: " ++
      toString position

/-- All that a new process needs to become the command. -/
structure ExecPlan where
  argv : List Argument
  /-- Whether its error output goes to the supervisor. -/
  capturesStderr : Bool
deriving DecidableEq

namespace ExecPlan

/-- The position of the first zero byte of an argument. -/
def zeroByte? (argument : Argument) : Option Nat :=
  argument.findIdx? (· == 0)

/-- The plan for a command. -/
def ofCommand (command : List Argument) (capturesStderr : Bool) : Except PlanFault ExecPlan :=
  if command = [] then .error .emptyCommand
  else
    match command.findSome? zeroByte? with
    | some position => .error (.zeroByte position)
    | none => .ok { argv := command, capturesStderr }

/-- The program to execute. -/
def program (plan : ExecPlan) : Argument :=
  plan.argv.headD []

/-- What a process says on its error output if its program cannot be executed. -/
def refusal (plan : ExecPlan) : List UInt8 :=
  Utf8.bytes "Cannot execute \"" ++ Utf8.encode (Utf8.decodeLossy plan.program) ++
    Utf8.bytes "\".\n"

end ExecPlan

/-- What makes processes, with states of type `σ`. -/
class Spawner (σ : Type) where
  /-- Makes a process; gives its id. -/
  spawn : σ → ExecPlan → Except SpawnFault Int × σ
  /-- Waits so many milliseconds. -/
  pause : σ → Nat → σ

/-- What was asked of a spawner. -/
inductive SpawnCall where
  | spawn (plan : ExecPlan)
  | pause (milliseconds : Nat)
deriving DecidableEq

/-- A spawner that answers from a list, and lacks resources when that is used up. -/
structure ScriptedSpawner where
  script : List (Except SpawnFault Int)
  /-- What was asked so far. -/
  calls : List SpawnCall := []

instance : Spawner ScriptedSpawner where
  spawn spawner plan :=
    match spawner.script with
    | [] => (.error .again, { spawner with calls := spawner.calls ++ [.spawn plan] })
    | result :: rest => (result, { script := rest, calls := spawner.calls ++ [.spawn plan] })
  pause spawner milliseconds := { spawner with calls := spawner.calls ++ [.pause milliseconds] }

/-- What became of a launch. -/
inductive LaunchOutcome where
  | spawned (pid : Int)
  | failed
  | noCommand
deriving DecidableEq

/-- A launch. -/
structure Launch where
  outcome : LaunchOutcome
  /-- Whether the supervisor holds the reading end of the command's error output. -/
  holdsStderr : Bool
deriving DecidableEq

namespace Launch

variable {σ : Type} [Spawner σ]

/-- Makes a process in at most so many tries, with a pause between two of them. -/
def spawnWithin (plan : ExecPlan) (pause : Nat) : Nat → σ → Except SpawnFault Int × σ
  | 0, spawner => (.error .again, spawner)
  | tries + 1, spawner =>
    match Spawner.spawn spawner plan with
    | (.error .again, spawner) =>
      if tries = 0 then (.error .again, spawner)
      else spawnWithin plan pause tries (Spawner.pause spawner pause)
    | settled => settled

/-- Launches the command of a request; `pipe` tells whether a pipe can be had for its error
output. -/
def launch (spawner : σ) (request : Request) (tunables : Tunables) (pipe : Bool) : Launch × σ :=
  match request.command with
  | none => (⟨.noCommand, false⟩, spawner)
  | some command =>
    let captures := request.policy.capturesStderr && pipe
    match ExecPlan.ofCommand command captures with
    | .error _ => (⟨.failed, false⟩, spawner)
    | .ok plan =>
      match spawnWithin plan tunables.forkBackoff tunables.forkAttempts.toNat spawner with
      | (.ok pid, spawner) => (⟨.spawned pid, captures⟩, spawner)
      | (.error _, spawner) => (⟨.failed, false⟩, spawner)

theorem spawnWithin_settled (plan : ExecPlan) (pause tries : Nat) (spawner : σ)
    (settled : (Spawner.spawn spawner plan).1 ≠ .error .again) :
    spawnWithin plan pause (tries + 1) spawner = Spawner.spawn spawner plan := by
  rw [spawnWithin]
  split
  · rename_i again
    exact absurd (congrArg Prod.fst again) settled
  · rfl

theorem launch_noCommand (spawner : σ) {request : Request} (tunables : Tunables) (pipe : Bool)
    (none : request.command = none) :
    launch spawner request tunables pipe = (⟨.noCommand, false⟩, spawner) := by
  simp [launch, none]

end Launch

end LaunchSupervisor
