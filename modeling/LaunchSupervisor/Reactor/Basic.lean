import LaunchSupervisor.Notice
import LaunchSupervisor.Shutdown.Core
import LaunchSupervisor.Shutdown.Signals
import LaunchSupervisor.Stderr.Drain

/-!
**The reactor's state.** The reactor waits for signals, the bus, the command's error output or the
end of a poll, takes in what there is, and feeds the shutdown one tick. Its way through an iteration
is laid out in stages, one action each, so that handlers may run between any two of them.

* `attached_start`: at the start the handlers see whether the session is held.
* `attached_sync`: so they do whenever the two are brought into line.
-/

namespace LaunchSupervisor

/-- The pipe into which a handler puts a byte to wake the reactor. -/
structure WakePipe where
  /-- The bytes that are in it. -/
  bytes : Nat
  /-- Whether its writing end is closed. -/
  closed : Bool
deriving DecidableEq

namespace WakePipe

/-- The most bytes a pipe takes; a handler does not wait for room. -/
def capacity : Nat := 65536

/-- The pipe after a handler has put a byte in. -/
def poke (pipe : WakePipe) : WakePipe :=
  if pipe.bytes < capacity then { pipe with bytes := pipe.bytes + 1 } else pipe

/-- Whether a read from the pipe would not have to wait. -/
def readable (pipe : WakePipe) : Bool :=
  pipe.closed || decide (0 < pipe.bytes)

/-- The pipe once it was read empty; none if that showed that it is closed. -/
def drained (pipe : WakePipe) : Option WakePipe :=
  if pipe.closed then none else some { pipe with bytes := 0 }

end WakePipe

namespace Reactor

/-- What has woken the reactor. -/
inductive Wake where
  | signal
  | bus
  | stderr
  | timeout
deriving DecidableEq

/-- How a run of the reactor has ended. -/
inductive Exit where
  /-- The shutdown has run to its end. -/
  | completed
  /-- A panic was seen to. -/
  | panicked
  /-- A handler has ended the process. -/
  | atOnce
deriving DecidableEq

/-- What the reactor does next. -/
inductive Stage where
  /-- It looks whether it is to panic, at the top of an iteration. -/
  | top
  /-- It chooses how long to poll: is the command over, -/
  | pollExited
  /-- or is there an urgent signal? -/
  | pollUrgent
  /-- It starts a poll, a short one if something is about to happen. -/
  | poll (short : Bool)
  /-- It waits, until the given time at most. -/
  | waiting (deadline : Nat)
  /-- It sees to what has woken it. -/
  | serving (wake : Wake)
  /-- It begins to receive from the bus. -/
  | opening
  /-- It receives one frame after the other and keeps what it has learnt. -/
  | receiving (learnt : List SessionEvent)
  /-- It tells the shutdown what it has learnt. -/
  | learning (learnt : List SessionEvent)
  /-- It looks again whether it is to panic. -/
  | recheck
  | noticing
  | noticed
  /-- It looks at the flags for a tick: is the command over, -/
  | seeExited
  /-- and is there an urgent signal? -/
  | seeUrgent (exited : Bool)
  | ticking (exited urgent : Bool)
  /-- It publishes the phase. -/
  | publishing (step : Shutdown.Step)
  /-- It carries out commands, and goes on or leaves after the last. -/
  | executing (commands : List Shutdown.Command) (keepRunning : Bool)
  /-- It brings the handlers into line with the session in between. -/
  | realigning (commands : List Shutdown.Command) (keepRunning : Bool)
  /-- It gives the session up, the shutdown being complete. -/
  | leaving
  | left
  /-- It tells the caller of the panic, or cleans up itself. -/
  | panicking
  | panicDetaching
  | panicked
  | finished (exit : Exit)
deriving DecidableEq

end Reactor

/-- The reactor's state. -/
structure Reactor (φ : Type) where
  tunables : Tunables
  core : Shutdown.Core
  /-- The flags that it shares with the handlers. -/
  signals : SignalState
  wake : Option WakePipe
  session : Option (Session Bus.Scripted)
  /-- Whether the bus is among the things it waits for. -/
  watching : Bool
  /-- Whether the bus has shown itself ready since it last was looked at. -/
  busReady : Bool
  stderr : Option Pipe
  /-- The tag of the command's error output in the log. -/
  stderrTag : String
  /-- What was handed to the error log, each with its tag. -/
  log : List (String × List UInt8)
  notice : Notice
  files : φ
  /-- The files to be removed if nobody else will. -/
  tempFiles : List Path
  /-- Whether that was tried. -/
  scrubbed : Bool
  /-- The time, in milliseconds. -/
  now : Nat
  stage : Reactor.Stage

namespace Reactor

/-- What a reactor is given. -/
structure Setup (φ : Type) where
  tunables : Tunables
  signals : SignalState := {}
  wake : Option WakePipe := none
  session : Option (Session Bus.Scripted) := none
  /-- Whether the connection has something that can be waited for. -/
  watchable : Bool := false
  /-- Whether that is ready from the start. -/
  busReady : Bool := false
  stderr : Option Pipe := none
  stderrTag : String := ""
  notice : Notice := ⟨none, false⟩
  files : φ
  tempFiles : List Path := []

variable {φ : Type}

/-- Whether the session is held. -/
def attached (reactor : Reactor φ) : Bool :=
  reactor.session.any (·.attached)

/-- The reactor at another stage. -/
def goto (reactor : Reactor φ) (stage : Stage) : Reactor φ :=
  { reactor with stage }

/-- Brings what is waited for, and what the handlers see, into line with the session. -/
def sync (reactor : Reactor φ) : Reactor φ :=
  { reactor with
    watching := reactor.watching && reactor.attached
    signals := { reactor.signals with attached := reactor.attached } }

/-- Does something with the session, if there is one. -/
def onSession (reactor : Reactor φ)
    (act : Session Bus.Scripted → Session Bus.Scripted) : Reactor φ :=
  { reactor with session := reactor.session.map act }

/-- The reactor before its first iteration. -/
def start (setup : Setup φ) : Reactor φ :=
  sync
    { tunables := setup.tunables
      core := .start setup.tunables.urgentTicks setup.tunables.replyTicks
      signals := setup.signals, wake := setup.wake, session := setup.session
      watching := setup.watchable, busReady := setup.busReady
      stderr := setup.stderr, stderrTag := setup.stderrTag, log := []
      notice := setup.notice, files := setup.files, tempFiles := setup.tempFiles
      scrubbed := false, now := 0, stage := .top }

@[simp] theorem attached_goto (reactor : Reactor φ) (stage : Stage) :
    (reactor.goto stage).attached = reactor.attached := rfl

@[simp] theorem attached_sync (reactor : Reactor φ) :
    reactor.sync.signals.attached = reactor.sync.attached := rfl

theorem attached_start (setup : Setup φ) :
    (start setup).signals.attached = setup.session.any (·.attached) := rfl

theorem watching_sync {reactor : Reactor φ} (watching : reactor.sync.watching) :
    reactor.sync.attached := by
  have := watching
  simp only [sync, Bool.and_eq_true] at this
  exact this.2

end Reactor

end LaunchSupervisor
