import LaunchSupervisor.Shutdown.Phase

/-!
**The shutdown, as a machine without effects.** It is fed ticks, each with what the supervisor has
just seen, and the caller's verdict on the report; it answers with commands and says whether to go
on. One tick may walk through several phases, always forward.

* `phase_le_advance`: moving the phase never takes it back.
* `run_append`: a run over two lists of events is the one run after the other.
-/

namespace LaunchSupervisor.Shutdown

/-- What a tick brings. -/
structure Observation where
  childExited : Bool
  urgent : Bool
  attached : Bool
deriving DecidableEq

/-- An event of the shutdown. -/
inductive Event where
  /-- One pass of the supervisor's loop. -/
  | tick (seen : Observation)
  /-- The caller has acknowledged the report. -/
  | doneReplied
  /-- The caller has refused the report; the session is gone. -/
  | doneFailed
deriving DecidableEq

/-- What the supervisor is to do. -/
inductive Command where
  | sendDone (status : ChildStatus)
  | detachSession
  | scrubTempFiles
  | clearUrgent
  /-- The command has ignored an urgent signal for too long. -/
  | panic
  /-- The shutdown is complete. -/
  | finalLinger
deriving DecidableEq

/-- The answer to one event. -/
structure Step where
  commands : List Command
  keepRunning : Bool
deriving DecidableEq

/-- The state of the shutdown. -/
structure Core where
  phase : Phase
  /-- Urgent ticks seen while the command runs. -/
  urgentTicks : UInt32
  /-- Ticks spent waiting for the caller's answer. -/
  replyTicks : UInt32
  /-- Whether the extra pass before the end has been made. -/
  lingerSkipped : Bool
  urgentLimit : UInt32
  replyLimit : UInt32
deriving DecidableEq

/-- A count one higher, or as high as it can be. -/
def countUp (n : UInt32) : UInt32 :=
  if n = 4294967295 then n else n + 1

namespace Core

/-- The state at the start. -/
def start (urgentLimit replyLimit : UInt32) : Core :=
  { phase := .starting, urgentTicks := 0, replyTicks := 0, lingerSkipped := false, urgentLimit,
    replyLimit }

/-- The state with the phase moved forward to `next`. -/
def advance (core : Core) (next : Phase) : Core :=
  { core with phase := core.phase.advance next }

/-! ### The cascade of a tick on which the command is over

Each stage takes the state, whether the session is still held, and the commands so far. -/

/-- The state within a tick. -/
structure Cascade where
  core : Core
  attached : Bool
  commands : List Command

/-- The end is reported to a caller that can be told. -/
def Cascade.report (c : Cascade) : Cascade :=
  if c.core.phase = .starting then
    if c.attached then
      { c with core := c.core.advance .replyWait, commands := c.commands ++ [.sendDone .done] }
    else { c with core := c.core.advance .panicCleanup }
  else c

/-- The wait for the answer is counted, and given up after the limit. -/
def Cascade.awaitReply (c : Cascade) : Cascade :=
  if c.core.phase = .replyWait then
    let counted := { c.core with replyTicks := countUp c.core.replyTicks }
    if counted.replyTicks > counted.replyLimit then
      { core := counted.advance .panicCleanup, attached := false
        commands := if c.attached then c.commands ++ [.detachSession] else c.commands }
    else if c.attached then { c with core := counted }
    else { c with core := counted.advance .panicCleanup }
  else c

/-- An answer settles the matter as long as the session is held. -/
def Cascade.settle (c : Cascade) : Cascade :=
  if c.core.phase = .replied then
    { c with core := c.core.advance (if c.attached then .finalLinger else .panicCleanup) }
  else c

/-- The temp files are removed when nobody else will. -/
def Cascade.cleanUp (c : Cascade) : Cascade :=
  if c.core.phase = .panicCleanup then
    { c with core := c.core.advance .finalLinger, commands := c.commands ++ [.scrubTempFiles] }
  else c

/-- One more pass is made before the end, so that late output is not lost. -/
def Cascade.finish (c : Cascade) : Core × Step :=
  if c.core.phase = .finalLinger then
    if c.core.lingerSkipped then (c.core, ⟨c.commands ++ [.finalLinger], false⟩)
    else ({ c.core with lingerSkipped := true }, ⟨c.commands, true⟩)
  else (c.core, ⟨c.commands, true⟩)

/-- A tick on which the command is over, after the commands so far. -/
def childOver (core : Core) (attached : Bool) (commands : List Command) : Core × Step :=
  (Cascade.mk core attached commands).report.awaitReply.settle.cleanUp.finish

/-- The answer to a tick. -/
def tick (core : Core) (seen : Observation) : Core × Step :=
  if seen.childExited then
    if seen.urgent then childOver { core with urgentTicks := 0 } seen.attached [.clearUrgent]
    else childOver core seen.attached []
  else if seen.urgent then
    let counted := { core with urgentTicks := countUp core.urgentTicks }
    if counted.urgentTicks > counted.urgentLimit then (counted, ⟨[.panic], false⟩)
    else (counted, ⟨[], true⟩)
  else (core, ⟨[], true⟩)

/-- The answer to an event. -/
def step (core : Core) : Event → Core × Step
  | .tick seen => core.tick seen
  | .doneReplied => (core.advance .replied, ⟨[], true⟩)
  | .doneFailed => (core.advance .panicCleanup, ⟨[], true⟩)

/-- The answers to a list of events, and the state after them. -/
def run (core : Core) : List Event → Core × List Step
  | [] => (core, [])
  | event :: rest =>
    let (next, answer) := core.step event
    let (last, answers) := next.run rest
    (last, answer :: answers)

/-! ### What no event changes -/

theorem phase_le_advance (core : Core) (next : Phase) : core.phase ≤ (core.advance next).phase :=
  Phase.le_advance core.phase next

theorem run_append (core : Core) (first second : List Event) :
    core.run (first ++ second) =
      (((core.run first).1.run second).1,
        (core.run first).2 ++ ((core.run first).1.run second).2) := by
  induction first generalizing core with
  | nil => simp [run]
  | cons event rest ih => simp [run, ih]

end Core

/-- Counting up adds one, short of the greatest count. -/
theorem countUp_toNat (n : UInt32) : (countUp n).toNat = min (n.toNat + 1) 4294967295 := by
  unfold countUp
  split
  · rename_i top
    simp [top]
  · rename_i below
    have bound := n.toNat_lt
    have short : n.toNat ≠ 4294967295 := fun same => below (UInt32.toNat_inj.mp same)
    rw [UInt32.toNat_add]
    simp only [UInt32.reduceToNat]
    omega

end LaunchSupervisor.Shutdown
