import LaunchSupervisor.Bus.Socket
import LaunchSupervisor.CommandLine
import LaunchSupervisor.ErrorLog
import LaunchSupervisor.Reactor.Run
import LaunchSupervisor.Tunables.Document

/-!
**The supervisor around its reactor.** What stands ready when the reactor starts, and what becomes
of the process when it has ended. Whatever fails on the way is told to the caller or logged; it
never keeps the reactor from starting.

* `attached_setup`: the reactor starts attached exactly if a session is held.
* `farewell_panicked`: after a panic the process ends at once.
-/

namespace LaunchSupervisor.Supervisor

/-- The flags that a launch leaves: a command that is not there counts as over, and one that could
not be launched as asked to end. -/
def flags : LaunchOutcome → SignalState
  | .noCommand => { childExited := true }
  | .failed => { urgent := true }
  | .spawned _ => {}

/-- The fault of an environment that names no bus. -/
def noEndpoint : Bus.Fault := .notConnected "no messaging bus endpoint configured"

/-- What is logged if there is no session with the caller. -/
def standaloneEntry (fault : Bus.Fault) : List UInt8 :=
  Utf8.bytes ("Could not connect to the messaging bus:\n" ++ fault.message ++ "\n")

/-- A session in which the caller has been told who supervises. -/
def introduce {κ : Type} [Bus.Connection κ] (connection : κ) (caller : Caller) : Session κ :=
  (Session.start connection caller).join.identify

/-- What the reactor is given. -/
def setup {φ : Type} (program : Argument) (request : Request) (tunables : Tunables)
    (launch : Launch) (session : Option (Session Bus.Scripted)) (files : φ) : Reactor.Setup φ :=
  { tunables
    signals := flags launch.outcome
    wake := some ⟨0, false⟩
    session
    watchable := true
    busReady := false
    stderr := if launch.holdsStderr then some (.ofHistory []) else none
    stderrTag :=
      ErrorLog.stderrTag (Utf8.lossyString program) (request.commandName.getD "")
    notice :=
      ⟨NoticePlan.ofLaunch launch.outcome request.caller request.commandName 0
        tunables.noticeDelay, false⟩
    files
    tempFiles := request.tempFiles }

/-- What becomes of the process once its reactor has ended. -/
def farewell (request : Request) (exit : Reactor.Exit) (signals : SignalState) (start : Int)
    (now : Option Int) : Farewell :=
  match exit with
  | .completed => (request.policy.effective signals.forceTransient).farewell start now
  | .panicked => .exit 0
  | .atOnce => .exit 0

theorem attached_setup {φ : Type} (program : Argument) (request : Request) (tunables : Tunables)
    (launch : Launch) (session : Option (Session Bus.Scripted)) (files : φ) :
    (Reactor.start (setup program request tunables launch session files)).attached =
      session.any (·.attached) := rfl

theorem farewell_panicked (request : Request) (signals : SignalState) (start : Int)
    (now : Option Int) : farewell request .panicked signals start now = .exit 0 := rfl

end LaunchSupervisor.Supervisor
