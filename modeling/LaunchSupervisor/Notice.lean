import LaunchSupervisor.Bus.Session
import LaunchSupervisor.Launch
import LaunchSupervisor.ProcessTree

/-!
**The notice to the icon cache.** Some time after the launch the icon cache is told, once, which
programs the action has turned into. Nothing here can affect the shutdown.

* `runIfDue_early`: nothing happens before the deadline.
* `fired_runIfDue`: at the deadline the notice is done, whatever comes of it.
-/

namespace LaunchSupervisor

/-- What a notice is to tell, and when. -/
structure NoticePlan where
  /-- The process that was launched. -/
  pid : Int
  /-- The command of the action. -/
  action : String
  /-- The time from which on the notice is due, in milliseconds. -/
  deadline : Nat
deriving DecidableEq

/-- The plan for a launch: there is one only for a process that was made for a known caller. -/
def NoticePlan.ofLaunch (outcome : LaunchOutcome) (caller : Option Caller)
    (action : Option String) (start delay : Nat) : Option NoticePlan :=
  match outcome, caller, action with
  | .spawned pid, some _, some action =>
    if action ≠ "" ∧ 0 < pid then some { pid, action, deadline := start + delay } else none
  | _, _, _ => none

/-- A notice, planned or not. -/
structure Notice where
  plan : Option NoticePlan
  /-- Whether its time has come and gone. -/
  fired : Bool := false
deriving DecidableEq

namespace Notice

/-- Whether nothing is left to be done. -/
def isDone (notice : Notice) : Bool :=
  notice.fired || notice.plan.isNone

/-- The plan, if it is due. -/
def due? (notice : Notice) (now : Nat) : Option NoticePlan :=
  if notice.fired then none else notice.plan.filter fun plan => decide (plan.deadline ≤ now)

/-- The notice once its time has come. -/
def markDone (notice : Notice) : Notice :=
  { notice with fired := true }

/-- A waiting time that does not miss the deadline. -/
def clamp (notice : Notice) (now timeout : Nat) : Nat :=
  match notice.plan, notice.fired with
  | some plan, false => min timeout (plan.deadline - now)
  | _, _ => timeout

variable {κ : Type} [Bus.Connection κ] {φ : Type} [FileSystem φ]

/-- Tells the icon cache about the programs that run for a plan, if there are any and the session is
held. -/
def tell (plan : NoticePlan) (session : Option (Session κ)) (files : φ) : Option (Session κ) :=
  let commands := ProcessTree.snapshot files plan.pid
  if commands.commands = [] then session
  else
    session.map fun session =>
      if session.attached then (session.tellIconCache plan.action commands.join).2 else session

/-- Gives the notice if it is due. -/
def runIfDue (notice : Notice) (now : Nat) (session : Option (Session κ)) (files : φ) :
    Notice × Option (Session κ) :=
  match notice.due? now with
  | none => (notice, session)
  | some plan => (notice.markDone, tell plan session files)

theorem runIfDue_early {notice : Notice} {now : Nat} (session : Option (Session κ)) (files : φ)
    (early : ∀ plan ∈ notice.plan, now < plan.deadline) :
    notice.runIfDue now session files = (notice, session) := by
  have notDue : notice.due? now = none := by
    unfold due?
    split
    · rfl
    · rw [Option.filter_eq_none_iff]
      intro plan planned
      simpa using early plan planned
  simp [runIfDue, notDue]

theorem fired_runIfDue {notice : Notice} {now : Nat} {plan : NoticePlan}
    (session : Option (Session κ)) (files : φ) (due : notice.due? now = some plan) :
    (notice.runIfDue now session files).1.fired = true := by
  simp [runIfDue, due, markDone]

end Notice

end LaunchSupervisor
