import LaunchSupervisor.Shutdown.Phase

/-!
**Signals.** A handler does no more than note what happened in a few flags and say whether the
process goes on; everything else is the supervisor's work.

* `onIgnorable_urgent`, `onIgnorable_panic`: a signal that may be ignored raises no alarm.
-/

namespace LaunchSupervisor

/-- What waiting for any child, without blocking, brought. -/
inductive ChildWait where
  | terminated
  | stopped
  | stillRunning
  | noChildren
  | failed
deriving DecidableEq

/-- What a handler does after noting what happened. -/
inductive HandlerAction where
  /-- It wakes the supervisor and returns. -/
  | resume
  /-- The process ends at once. -/
  | exit
  /-- The registered temp files are removed and the process ends. -/
  | scrubAndExit
deriving DecidableEq

/-- The flags that handlers and the supervisor share. -/
structure SignalState where
  childExited : Bool := false
  urgent : Bool := false
  /-- A signal has asked the supervisor not to linger. -/
  forceTransient : Bool := false
  panic : Bool := false
  /-- Whether the session is held, as last published. -/
  attached : Bool := false
  /-- The phase, as last published. -/
  phase : Phase := .starting
deriving DecidableEq

namespace SignalState

/-- A signal that ends the wait, at once if there is nothing left to do. -/
def degrade (state : SignalState) : HandlerAction × SignalState :=
  if state.childExited ∧ state.phase = .finalLinger then (.exit, state)
  else (.resume, { state with forceTransient := true })

/-- A child has changed its state. -/
def onGraceful (state : SignalState) (wait : ChildWait) : HandlerAction × SignalState :=
  match wait with
  | .terminated | .noChildren => (.resume, { state with childExited := true })
  | .stopped | .stillRunning | .failed => (.resume, state)

/-- The supervisor is asked to end. -/
def onUrgent (state : SignalState) : HandlerAction × SignalState :=
  degrade { state with urgent := true }

/-- The supervisor is asked not to linger. -/
def onIgnorable (state : SignalState) : HandlerAction × SignalState :=
  degrade state

/-- The supervisor is interrupted. -/
def onPanic (state : SignalState) : HandlerAction × SignalState :=
  if ¬ state.attached then (.scrubAndExit, state)
  else if state.phase = .finalLinger then (.exit, state)
  else (.resume, { state with panic := true })

end SignalState

/-- An access to the shared flags. -/
inductive SignalCall where
  | graceful (wait : ChildWait)
  | urgent
  | ignorable
  | panic
  | markChildExited
  | raiseUrgent
  | clearUrgent
  | setAttached (attached : Bool)
  | publishPhase (phase : Phase)
deriving DecidableEq

/-- What an access does, and a handler's answer if it is one of a handler. -/
def SignalState.apply (state : SignalState) : SignalCall → Option HandlerAction × SignalState
  | .graceful wait => let (action, next) := state.onGraceful wait; (some action, next)
  | .urgent => let (action, next) := state.onUrgent; (some action, next)
  | .ignorable => let (action, next) := state.onIgnorable; (some action, next)
  | .panic => let (action, next) := state.onPanic; (some action, next)
  | .markChildExited => (none, { state with childExited := true })
  | .raiseUrgent => (none, { state with urgent := true })
  | .clearUrgent => (none, { state with urgent := false })
  | .setAttached attached => (none, { state with attached })
  | .publishPhase phase => (none, { state with phase })

namespace SignalState

/-- The answers to a list of accesses, each with the state after it. -/
def run (state : SignalState) : List SignalCall → List (Option HandlerAction × SignalState)
  | [] => []
  | call :: rest => state.apply call :: (state.apply call).2.run rest

/-- The state after a list of accesses. -/
def after (state : SignalState) (calls : List SignalCall) : SignalState :=
  calls.foldl (fun state call => (state.apply call).2) state

theorem onIgnorable_urgent (state : SignalState) : state.onIgnorable.2.urgent = state.urgent := by
  unfold onIgnorable degrade
  split <;> rfl

theorem onIgnorable_panic (state : SignalState) : state.onIgnorable.2.panic = state.panic := by
  unfold onIgnorable degrade
  split <;> rfl

end SignalState

end LaunchSupervisor
