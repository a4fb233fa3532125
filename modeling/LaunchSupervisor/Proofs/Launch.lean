import LaunchSupervisor.Launch
import Mathlib

/-!
**What a launch asks for and what it comes to.** The results of successive tries are laid down in a
script. Tries go on while resources are short: the first result of another kind settles the matter,
unless the tries are used up before. A launch makes its tries only with a command that can be
executed, and hands on just that command.

* `triesNeeded`: the try that settles the matter, read off the script.
* `spawnWithin_tries`: what is asked for in so many tries, and the result.
* `IsExecutable`, `ofCommand_of_isExecutable`: which commands can be executed.
* `launch_exact`: the statement.
-/

namespace LaunchSupervisor

/-- Whether a result of a try settles the matter. -/
def isSettled : Except SpawnFault Int → Bool
  | .error .again => false
  | _ => true

theorem isSettled_iff (result : Except SpawnFault Int) :
    isSettled result ↔ result ≠ .error .again := by
  unfold isSettled
  split <;> simp_all

/-- The number of the first try that settles the matter, if there is one. -/
def triesNeeded (script : List (Except SpawnFault Int)) : ℕ∞ :=
  match script.findIdx? isSettled with
  | some position => position + 1
  | none => ⊤

/-- What so many tries come to. -/
def resultWithin (script : List (Except SpawnFault Int)) (tries : Nat) : Except SpawnFault Int :=
  if triesNeeded script ≤ tries then (script.find? isSettled).getD (.error .again)
  else .error .again

/-- What is asked for in so many tries: a pause between any two of them. -/
def triesWith (plan : ExecPlan) (pause : Nat) (spawns : Nat) : List SpawnCall :=
  (List.replicate spawns (.spawn plan)).intersperse (.pause pause)

/-! ### One try -/

/-- A script that is used up goes on with a lack of resources. -/
theorem spawn_scripted (spawner : ScriptedSpawner) (plan : ExecPlan) :
    Spawner.spawn spawner plan =
      (spawner.script.headD (.error .again),
        { script := spawner.script.tail, calls := spawner.calls ++ [.spawn plan] }) := by
  obtain ⟨script, calls⟩ := spawner
  cases script <;> rfl

theorem triesNeeded_eq (script : List (Except SpawnFault Int)) :
    triesNeeded script =
      if isSettled (script.headD (.error .again)) then 1 else triesNeeded script.tail + 1 := by
  cases script with
  | nil => rfl
  | cons result rest =>
    unfold triesNeeded
    rw [List.findIdx?_cons]
    cases settled : isSettled result with
    | true => simp [settled]
    | false =>
      simp only [Bool.false_eq_true, if_false, List.headD_cons, settled, List.tail_cons]
      cases rest.findIdx? isSettled <;> rfl

theorem one_le_triesNeeded (script : List (Except SpawnFault Int)) : 1 ≤ triesNeeded script := by
  rw [triesNeeded_eq]
  split
  · exact le_rfl
  · exact le_add_self

theorem find?_eq (script : List (Except SpawnFault Int)) :
    (script.find? isSettled).getD (.error .again) =
      if isSettled (script.headD (.error .again)) then script.headD (.error .again)
      else (script.tail.find? isSettled).getD (.error .again) := by
  cases script with
  | nil => rfl
  | cons result rest =>
    rw [List.find?_cons]
    cases settled : isSettled result <;> simp [settled]

/-- Each try looks at the next result. -/
theorem resultWithin_succ (script : List (Except SpawnFault Int)) (tries : Nat) :
    resultWithin script (tries + 1) =
      if isSettled (script.headD (.error .again)) then script.headD (.error .again)
      else resultWithin script.tail tries := by
  unfold resultWithin
  rw [triesNeeded_eq, find?_eq]
  cases isSettled (script.headD (.error .again)) with
  | true => simp
  | false =>
    have fewer : triesNeeded script.tail + 1 ≤ ((tries + 1 : Nat) : ℕ∞) ↔
        triesNeeded script.tail ≤ tries := by
      rw [Nat.cast_add, Nat.cast_one]
      exact ENat.add_le_add_iff_right ENat.one_ne_top
    simp only [Bool.false_eq_true, if_false, fewer]

theorem resultWithin_zero (script : List (Except SpawnFault Int)) :
    resultWithin script 0 = .error .again := by
  refine if_neg fun needed => ?_
  have impossible := (one_le_triesNeeded script).trans needed
  exact absurd impossible (by decide)

/-- Another try is another pause before it. -/
theorem triesWith_succ (plan : ExecPlan) (pause : Nat) {spawns : Nat} (some : 0 < spawns) :
    triesWith plan pause (spawns + 1) =
      .spawn plan :: .pause pause :: triesWith plan pause spawns := by
  obtain ⟨fewer, rfl⟩ := Nat.exists_eq_succ_of_ne_zero some.ne'
  rfl

/-! ### All tries -/

namespace Launch

/-- **What so many tries ask for, and what they come to.** -/
theorem spawnWithin_tries (plan : ExecPlan) (pause tries : Nat) (spawner : ScriptedSpawner) :
    (spawnWithin plan pause tries spawner).1 = resultWithin spawner.script tries ∧
      ∃ spawns : Nat, (spawns : ℕ∞) = min (tries : ℕ∞) (triesNeeded spawner.script) ∧
        (spawnWithin plan pause tries spawner).2.calls =
          spawner.calls ++ triesWith plan pause spawns := by
  induction tries generalizing spawner with
  | zero => exact ⟨(resultWithin_zero _).symm, 0, by simp, by simp [spawnWithin, triesWith]⟩
  | succ tries ih =>
    have first := spawn_scripted spawner plan
    rw [resultWithin_succ]
    by_cases settled : isSettled (spawner.script.headD (.error .again))
    · have settles : (Spawner.spawn spawner plan).1 ≠ .error .again := by
        rw [first]
        exact (isSettled_iff _).mp settled
      rw [spawnWithin_settled plan pause tries spawner settles, first, if_pos settled]
      have needed : triesNeeded spawner.script = 1 := by rw [triesNeeded_eq, if_pos settled]
      exact ⟨rfl, 1, by simp [needed], rfl⟩
    · rw [isSettled_iff, not_not] at settled
      have needed : triesNeeded spawner.script = triesNeeded spawner.script.tail + 1 := by
        rw [triesNeeded_eq, settled]
        rfl
      rw [settled] at first
      rw [spawnWithin, first, settled]
      dsimp only
      by_cases last : tries = 0
      · subst last
        rw [if_pos rfl, resultWithin_zero]
        refine ⟨rfl, 1, ?_, rfl⟩
        rw [needed]
        simp
      · rw [if_neg last]
        obtain ⟨result, spawns, counted, calls⟩ :=
          ih (Spawner.pause
            (⟨spawner.script.tail, spawner.calls ++ [.spawn plan]⟩ : ScriptedSpawner) pause)
        have some : 0 < spawns := by
          have one : (1 : ℕ∞) ≤ spawns := by
            rw [counted]
            refine le_min ?_ (one_le_triesNeeded _)
            exact_mod_cast Nat.one_le_iff_ne_zero.mpr last
          exact_mod_cast one
        refine ⟨result, spawns + 1, ?_, ?_⟩
        · rw [needed, Nat.cast_add, counted, Nat.cast_add]
          exact (min_add_add_right (tries : ℕ∞) (triesNeeded spawner.script.tail) 1).symm
        · rw [calls, triesWith_succ plan pause some]
          show spawner.calls ++ [.spawn plan] ++ [.pause pause] ++ _ = _
          simp only [List.append_assoc, List.cons_append, List.nil_append]

end Launch

/-! ### Commands that can be executed -/

/-- Whether a command can be executed: it names a program, and no argument holds a zero byte. -/
def IsExecutable (command : List Argument) : Prop :=
  command ≠ [] ∧ ∀ argument ∈ command, 0 ∉ argument

theorem zeroByte?_eq_none_iff (argument : Argument) :
    ExecPlan.zeroByte? argument = none ↔ 0 ∉ argument := by
  unfold ExecPlan.zeroByte?
  rw [List.findIdx?_eq_none_iff]
  constructor
  · intro none zero
    simpa using none 0 zero
  · intro none b member
    rw [beq_eq_false_iff_ne]
    rintro rfl
    exact none member

/-- **A command that can be executed is planned** as it stands, and no other is. -/
theorem ofCommand_of_isExecutable {command : List Argument} (executable : IsExecutable command)
    (capturesStderr : Bool) :
    ExecPlan.ofCommand command capturesStderr = .ok ⟨command, capturesStderr⟩ := by
  have plain : command.findSome? ExecPlan.zeroByte? = none :=
    List.findSome?_eq_none_iff.mpr fun argument member =>
      (zeroByte?_eq_none_iff argument).mpr (executable.2 argument member)
  unfold ExecPlan.ofCommand
  rw [if_neg executable.1, plain]

theorem exists_fault_of_not_isExecutable {command : List Argument}
    (refused : ¬ IsExecutable command) (capturesStderr : Bool) :
    ∃ fault, ExecPlan.ofCommand command capturesStderr = .error fault := by
  unfold ExecPlan.ofCommand
  by_cases empty : command = []
  · exact ⟨.emptyCommand, if_pos empty⟩
  · rw [if_neg empty]
    cases found : command.findSome? ExecPlan.zeroByte? with
    | some position => exact ⟨.zeroByte position, rfl⟩
    | none =>
      refine absurd ⟨empty, fun argument member => ?_⟩ refused
      exact (zeroByte?_eq_none_iff argument).mp
        (List.findSome?_eq_none_iff.mp found argument member)

/-- What the tries with a plan make of a launch. -/
def ExecPlan.launched (plan : ExecPlan) : Except SpawnFault Int → Launch
  | .ok pid => ⟨.spawned pid, plan.capturesStderr⟩
  | .error _ => ⟨.failed, false⟩

namespace Launch

/-! ### The statement -/

theorem launch_refused (spawner : ScriptedSpawner) {request : Request} (tunables : Tunables)
    (pipe : Bool) {command : List Argument} (given : request.command = some command)
    (refused : ¬ IsExecutable command) :
    launch spawner request tunables pipe = (⟨.failed, false⟩, spawner) := by
  obtain ⟨fault, planned⟩ :=
    exists_fault_of_not_isExecutable refused (request.policy.capturesStderr && pipe)
  simp only [launch, given, planned]

/-- **A command that can be executed** is tried as it stands. -/
theorem launch_executable (spawner : ScriptedSpawner) {request : Request} (tunables : Tunables)
    (pipe : Bool) {command : List Argument} (given : request.command = some command)
    (executable : IsExecutable command) :
    let plan : ExecPlan := ⟨command, request.policy.capturesStderr && pipe⟩
    let tried := spawnWithin plan tunables.forkBackoff tunables.forkAttempts.toNat spawner
    launch spawner request tunables pipe = (plan.launched tried.1, tried.2) := by
  have planned := ofCommand_of_isExecutable executable (request.policy.capturesStderr && pipe)
  simp only [launch, given, planned]
  generalize spawnWithin _ _ _ spawner = tried
  obtain ⟨result, after⟩ := tried
  cases result <;> rfl

theorem capturesStderr_iff (policy : OpenPolicy) :
    policy.capturesStderr ↔ policy = .transient := by
  cases policy <;> simp [OpenPolicy.capturesStderr]

/-- The supervisor holds a reading end exactly if the process was made, with a plan that has its
error output captured. -/
theorem holdsStderr_launched_iff (plan : ExecPlan) (result : Except SpawnFault Int) :
    (plan.launched result).holdsStderr ↔
      (∃ pid, (plan.launched result).outcome = .spawned pid) ∧ plan.capturesStderr := by
  cases result <;> simp [ExecPlan.launched]

/-- **What a launch asks for and what it comes to.** So many tries ask for a process as often as it
takes to get a result other than a lack of resources, but no more often than they are, with the
pause between any two of them; the result is that one, or the lack of resources. Without a command,
or with one that cannot be executed, a launch asks for nothing. Otherwise it tries the command as it
stands, and the outcome is that of the tries. The reading end of the error output is held exactly if
the process was made, the window is to close at once and a pipe could be had. -/
theorem launch_exact (spawner : ScriptedSpawner) :
    (∀ (plan : ExecPlan) (pause : Nat) (tries : UInt32),
      let tried := spawnWithin plan pause tries.toNat spawner
      tried.1 = resultWithin spawner.script tries.toNat ∧
        ∃ spawns : Nat,
          (spawns : ℕ∞) = min (tries.toNat : ℕ∞) (triesNeeded spawner.script) ∧
          tried.2.calls = spawner.calls ++ triesWith plan pause spawns) ∧
      ∀ (request : Request) (tunables : Tunables) (pipe : Bool),
        let launched := launch spawner request tunables pipe
        (request.command = none → launched = (⟨.noCommand, false⟩, spawner)) ∧
          (∀ command, request.command = some command → ¬ IsExecutable command →
            launched = (⟨.failed, false⟩, spawner)) ∧
          (∀ command, request.command = some command → IsExecutable command →
            ∃ (plan : ExecPlan) (spawns : Nat), plan.argv = command ∧
              (spawns : ℕ∞) =
                min (tunables.forkAttempts.toNat : ℕ∞) (triesNeeded spawner.script) ∧
              launched.2.calls = spawner.calls ++ triesWith plan tunables.forkBackoff spawns ∧
              launched.1.outcome =
                match resultWithin spawner.script tunables.forkAttempts.toNat with
                | .ok pid => .spawned pid
                | .error _ => .failed) ∧
          (launched.1.holdsStderr ↔
            (∃ pid, launched.1.outcome = .spawned pid) ∧ request.policy = .transient ∧
              pipe) := by
  refine ⟨fun plan pause tries => spawnWithin_tries plan pause tries.toNat spawner,
    fun request tunables pipe => ⟨launch_noCommand spawner tunables pipe,
      fun command => launch_refused spawner tunables pipe,
      fun command given executable => ?_, ?_⟩⟩
  · obtain ⟨result, spawns, counted, calls⟩ :=
      spawnWithin_tries ⟨command, request.policy.capturesStderr && pipe⟩ tunables.forkBackoff
        tunables.forkAttempts.toNat spawner
    rw [launch_executable spawner tunables pipe given executable]
    refine ⟨_, spawns, rfl, counted, calls, ?_⟩
    rw [result]
    cases resultWithin spawner.script tunables.forkAttempts.toNat <;> rfl
  · cases given : request.command with
    | none => simp [launch_noCommand spawner tunables pipe given]
    | some command =>
      by_cases executable : IsExecutable command
      · rw [launch_executable spawner tunables pipe given executable]
        refine (holdsStderr_launched_iff _ _).trans (and_congr_right fun _ => ?_)
        rw [Bool.and_eq_true, capturesStderr_iff]
      · simp [launch_refused spawner tunables pipe given executable]

/-- A spawner that is short of resources twice. -/
def scarceSpawner : ScriptedSpawner :=
  { script := [.error .again, .error .again, .ok 42] }

/-- A request for a command that is to close its window at once. -/
def transientRequest : Request :=
  { policy := .transient, command := some [Utf8.bytes "true"] }

/-- The third try makes the process, and its error output is captured. -/
theorem launch_scarce :
    IsExecutable [Utf8.bytes "true"] ∧
      ∃ plan : ExecPlan, plan.argv = [Utf8.bytes "true"] ∧
        (launch scarceSpawner transientRequest ({} : Settings).tunables true).2.calls =
          [.spawn plan, .pause 2000, .spawn plan, .pause 2000, .spawn plan] ∧
        (launch scarceSpawner transientRequest ({} : Settings).tunables true).1.outcome =
          .spawned 42 ∧
        (launch scarceSpawner transientRequest ({} : Settings).tunables true).1.holdsStderr := by
  have executable : IsExecutable [Utf8.bytes "true"] := by
    refine ⟨by decide, fun argument member => ?_⟩
    rw [List.mem_singleton.mp member]
    decide +kernel
  obtain ⟨-, -, tried, holds⟩ :=
    (launch_exact scarceSpawner).2 transientRequest ({} : Settings).tunables true
  obtain ⟨plan, spawns, argv, counted, calls, outcome⟩ := tried _ rfl executable
  have needed : triesNeeded scarceSpawner.script = 3 := rfl
  have third : spawns = 3 := by
    have least : min (10 : ℕ∞) 3 = 3 := min_eq_right (by decide)
    rw [needed] at counted
    exact ENat.natCast_inj.mp (counted.trans least)
  have result : resultWithin scarceSpawner.script 10 = .ok 42 := by
    unfold resultWithin
    rw [needed, if_pos (by decide)]
    rfl
  have made : (launch scarceSpawner transientRequest ({} : Settings).tunables true).1.outcome =
      .spawned 42 := by
    rw [outcome, show ({} : Settings).tunables.forkAttempts.toNat = 10 from rfl, result]
  exact ⟨executable, plan, argv, by rw [calls, third]; rfl, made,
    holds.mpr ⟨⟨42, made⟩, rfl, rfl⟩⟩

end Launch

end LaunchSupervisor
