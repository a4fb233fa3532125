import LaunchSupervisor.Bus.Session
import LaunchSupervisor.Bus.Wire

/-!
**Launchers.** The launcher lets a supervisor in and answers its requests at once, each manner in
its own way.

* `answer?_notice`: no launcher answers a notice.
-/

namespace LaunchSupervisor.Trial

/-- The ways in which a launcher treats a supervisor. -/
inductive Manner where
  /-- It acknowledges every request. -/
  | handle
  /-- It refuses the report that the command is over. -/
  | failDone
  /-- It does not know the supervisor. -/
  | failIdentify
  /-- It does not answer the report. -/
  | silent
  /-- It does not let the supervisor in. -/
  | refuse
deriving DecidableEq

namespace Manner

/-- The id that a launcher gives to the supervisor. -/
def procid : String := "dtexec.fake"

/-- The session that a launcher lets the supervisor into. -/
def session : String := "fake-session"

/-- The stream to a launcher that has just been asked to let the supervisor in. -/
def wire : Manner → Bus.Wire
  | .refuse => { incoming := [.endOfFile] }
  | _ => { incoming := [.bytes (Bus.Frame.opened procid session).line] }

/-- The state in which a launcher returns a request for an operation, if it does. -/
def verdict? (manner : Manner) (operation : String) : Option Bus.MessageState :=
  if operation = Session.doneOperation then
    match manner with
    | .failDone => some .failed
    | .silent => none
    | .handle => some .handled
    | .failIdentify => some .handled
    | .refuse => some .handled
  else if operation = Session.identifyOperation ∧ manner = .failIdentify then some .failed
  else some .handled

/-- What a launcher answers to a call of the supervisor's connection. -/
def answer? (manner : Manner) : Bus.Call → Option Bus.Taken
  | .send (.message message) true =>
    if message.kind = .request then
      (manner.verdict? message.operation).map fun state => .ok (some (.reply message.id state .ok))
    else none
  | _ => none

theorem answer?_notice (manner : Manner) {message : Bus.Message} (notice : message.kind = .notice) :
    manner.answer? (.send (.message message) true) = none := by
  simp [answer?, notice]

end Manner

end LaunchSupervisor.Trial
