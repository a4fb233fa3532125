import LaunchSupervisor.Bus.Connection
import LaunchSupervisor.Caller
import LaunchSupervisor.Shutdown.Phase

/-!
**A session with the caller.** The supervisor says who it is, reports the end of the command and
listens for the answer. A session that has been given up stays so, and everything asked of it then
has no effect.

* `attached_detach`: a session is never held after it was given up.
* `receive_detached`: nothing is received from a session that is not held.
-/

namespace LaunchSupervisor

/-- The requests whose answers matter. -/
inductive Bus.Request where
  /-- Who the supervisor is. -/
  | identify
  /-- The report that the command is over. -/
  | done
deriving DecidableEq

/-- What a supervisor learns from its session. -/
inductive SessionEvent where
  /-- The caller has acknowledged the report. -/
  | doneReplied
  /-- The caller has refused the report, and the session was given up. -/
  | doneFailed
  /-- The session is lost, or the caller does not know the supervisor. -/
  | detached
deriving DecidableEq

/-- A session over a connection with states of type `κ`. -/
structure Session (κ : Type) where
  connection : κ
  /-- Whether the session is held. -/
  attached : Bool := true
  caller : Caller
  /-- The id of the next message. -/
  nextId : UInt64 := 1
  /-- The requests that have not been answered, by id. -/
  pending : List (UInt64 × Bus.Request) := []
  /-- Whether the report has been made, or tried. -/
  doneSent : Bool := false

namespace Session

open Bus (Connection Fault Frame Message MessageKind MessageState)

/-- The operation by which a supervisor makes itself known. -/
def identifyOperation : String := "_DtActDtexecID"

/-- The operation by which it reports the end of the command. -/
def doneOperation : String := "_DtActDtexecDone"

/-- The operation by which it tells the icon cache about the command's children. -/
def iconCacheOperation : String := "DtActionIconCache_Update"

/-- The operation of a request. -/
def operation : Bus.Request → String
  | .identify => identifyOperation
  | .done => doneOperation

/-- A session as it starts. -/
def start {κ : Type} (connection : κ) (caller : Caller) : Session κ :=
  { connection, caller }

variable {κ : Type} [Connection κ]

/-- Gives the session up. -/
def detach (session : Session κ) : Session κ :=
  if session.attached then
    { session with
      connection := Connection.close session.connection, attached := false, pending := [] }
  else session

/-- Sends a frame; a session that cannot is given up. -/
def sendOrDetach (session : Session κ) (frame : Frame) : Session κ :=
  match Connection.send session.connection frame with
  | (.ok (), connection) => { session with connection }
  | (.error _, connection) => detach { session with connection }

/-- Joins the bus session, so that messages are delivered. -/
def join (session : Session κ) : Session κ :=
  if session.attached then
    session.sendOrDetach (.join (Connection.session session.connection))
  else session

/-! ### Messages of one's own -/

/-- A new message with an id of its own. -/
def create (session : Session κ) (kind : MessageKind) (handler : Option String)
    (operation : String) (arguments : List Bus.Argument) : Except Fault Message × Session κ :=
  (Message.build session.nextId kind handler operation arguments,
    { session with nextId := session.nextId + 1 })

/-- Puts a message on the bus; gives the message in its new state. -/
def send (session : Session κ) (message : Message) :
    Except Fault Unit × Message × Session κ :=
  if session.attached then
    match Connection.send session.connection (.message { message with state := .sent }) with
    | (.ok (), connection) => (.ok (), { message with state := .sent }, { session with connection })
    | (.error fault, connection) =>
      (.error fault, { message with state := .created }, { session with connection })
  else (.error .detached, message, session)

/-- Makes a request of the caller, and remembers that an answer is due. A request that cannot be
made ends the session. -/
def request (session : Session κ) (request : Bus.Request) (arguments : List Bus.Argument) :
    Session κ :=
  if session.attached then
    match session.create .request (some session.caller.procid) (operation request) arguments with
    | (.error _, session) => session.detach
    | (.ok message, session) =>
      match session.send message with
      | (.ok (), message, session) =>
        { session with pending := (message.id, request) :: session.pending }
      | (.error _, _, session) => session.detach
  else session

/-- The numbers by which the caller knows the supervisor. -/
def callerArguments (session : Session κ) : List Bus.Argument :=
  [.int session.caller.invocation, .int session.caller.child]

/-- Tells the caller how the supervisor can be reached. -/
def identify (session : Session κ) : Session κ :=
  session.request .identify
    (session.callerArguments ++ [.messageId (Connection.procid session.connection)])

/-- Reports the state of the command; only the first report is made. -/
def reportDone (session : Session κ) (status : ChildStatus) : Session κ :=
  if session.doneSent then session
  else
    request { session with doneSent := true } .done (session.callerArguments ++ [.int status.code])

/-- Tells the icon cache what the command's action turned into. -/
def tellIconCache (session : Session κ) (action children : String) :
    Except Fault Unit × Session κ :=
  match session.create .notice none iconCacheOperation [.str action, .str children] with
  | (.error fault, session) => (.error fault, session)
  | (.ok message, session) =>
    let (sent, _, session) := session.send message
    (sent, session)

/-! ### Messages of others -/

/-- Answers a message that nobody handles; an answer that cannot be sent is let go. -/
def answer (session : Session κ) (message : Message) (state : MessageState) : Session κ :=
  if session.attached then
    { session with
      connection :=
        (Connection.send session.connection (.reply message.id state .notSupported)).2 }
  else session

/-- Refuses a message, so that it can be offered to someone else. -/
def reject (session : Session κ) (message : Message) : Session κ :=
  session.answer message .rejected

/-- Tells the sender that its message has failed. -/
def fail (session : Session κ) (message : Message) : Session κ :=
  session.answer message .failed

/-- Whether nobody else could handle a message. -/
def isForUsAlone (message : Message) : Bool :=
  message.address == .handler || message.status == .startMessage

/-- Gets rid of a message: a request that waits for an answer gets one. -/
def abandon (session : Session κ) (message : Message) : Session κ :=
  if message.awaitsHandling then
    if isForUsAlone message then session.fail message else session.reject message
  else session

/-! ### What comes in -/

/-- Takes in how far a request of one's own has come. -/
def onReply (session : Session κ) (id : UInt64) (state : MessageState) :
    Option SessionEvent × Session κ :=
  match session.pending.lookup id with
  | none => (none, session)
  | some request =>
    let settled := { session with pending := session.pending.filter fun entry => entry.1 != id }
    match request, state with
    | .identify, .handled => (none, settled)
    | .identify, .failed => (some .detached, settled.detach)
    | .done, .handled => (some .doneReplied, settled)
    | .done, .failed => (some .doneFailed, settled.detach)
    | _, .created => (none, session)
    | _, .sent => (none, session)
    | _, .rejected => (none, session)

/-- Takes in a frame. -/
def onFrame (session : Session κ) : Frame → Option SessionEvent × Session κ
  | .reply id state _ => session.onReply id state
  | .message message => (none, session.abandon message)
  | .openRequest => (none, session)
  | .opened _ _ => (none, session)
  | .join _ => (none, session)
  | .quit _ => (none, session)

/-- Takes in what a connection has brought: whether there can be more, and what was learnt. -/
def onTaken (session : Session κ) : Bus.Taken → Bool × Option SessionEvent × Session κ
  | .ok none => (false, none, session)
  | .ok (some frame) => (true, session.onFrame frame)
  | .error (.protocol _) => (true, none, session)
  | .error _ => (false, some .detached, session.detach)

/-- Takes in the next frame of a session that is held. -/
def receiveNext (session : Session κ) : Bool × Option SessionEvent × Session κ :=
  if session.attached then
    match Connection.take session.connection with
    | (taken, connection) => onTaken { session with connection } taken
  else (false, none, session)

/-- How much there is to be received. -/
def backlog (session : Session κ) : Nat :=
  if session.attached then Connection.backlog session.connection else 0

/-! ### How much is left to be received -/

@[simp] theorem attached_detach (session : Session κ) : session.detach.attached = false := by
  unfold detach
  split
  · rfl
  · rename_i open_
    simpa using open_

theorem backlog_held {session : Session κ} (held : session.attached) :
    session.backlog = Connection.backlog session.connection := by
  simp only [backlog, held, if_true]

theorem backlog_detach (session : Session κ) : session.detach.backlog = 0 := by
  simp [backlog]

theorem backlog_answer (session : Session κ) (message : Message) (state : MessageState) :
    (session.answer message state).backlog = session.backlog := by
  unfold answer backlog
  split <;> simp [*, Connection.backlog_send]

theorem backlog_onReply_le (session : Session κ) (id : UInt64) (state : MessageState) :
    (session.onReply id state).2.backlog ≤ session.backlog := by
  unfold onReply
  split
  · exact Nat.le_refl _
  · rename_i request _
    cases request <;> cases state <;> simp [backlog_detach] <;> exact Nat.le_refl _

theorem backlog_onFrame_le (session : Session κ) (frame : Frame) :
    (session.onFrame frame).2.backlog ≤ session.backlog := by
  cases frame with
  | reply id state status => exact backlog_onReply_le session id state
  | message message =>
    simp only [onFrame, abandon, fail, reject]
    split
    · split <;> exact Nat.le_of_eq (backlog_answer ..)
    · exact Nat.le_refl _
  | openRequest => exact Nat.le_refl _
  | opened procid session_ => exact Nat.le_refl _
  | join session_ => exact Nat.le_refl _
  | quit session_ => exact Nat.le_refl _

theorem backlog_onTaken_le (session : Session κ) (taken : Bus.Taken) :
    (session.onTaken taken).2.2.backlog ≤ session.backlog := by
  unfold onTaken
  split
  · exact Nat.le_refl _
  · exact backlog_onFrame_le session _
  · exact Nat.le_refl _
  · simp [backlog_detach]

theorem goesOn_of_onTaken {session : Session κ} {taken : Bus.Taken}
    (more : (session.onTaken taken).1) : taken.goesOn := by
  unfold onTaken at more
  split at more
  · cases more
  · rfl
  · rfl
  · cases more

theorem backlog_receiveNext_lt {session : Session κ} (more : session.receiveNext.1) :
    session.receiveNext.2.2.backlog < session.backlog := by
  unfold receiveNext at more ⊢
  split at more
  · rename_i held
    rw [if_pos held]
    have less := Connection.backlog_take session.connection (goesOn_of_onTaken more)
    refine Nat.lt_of_le_of_lt (backlog_onTaken_le _ _) ?_
    rw [backlog_held (by exact held), backlog_held held]
    exact less
  · cases more

/-- Takes in all there is; gives what was learnt, in order. -/
def receive (session : Session κ) : List SessionEvent × Session κ :=
  match _next : session.receiveNext with
  | (false, event, rest) => (event.toList, rest)
  | (true, event, rest) => (event.toList ++ rest.receive.1, rest.receive.2)
termination_by session.backlog
decreasing_by all_goals
  have less := @backlog_receiveNext_lt κ _ session (by rw [_next])
  rw [_next] at less
  exact less

theorem receive_detached {session : Session κ} (givenUp : session.attached = false) :
    session.receive = ([], session) := by
  have nothing : session.receiveNext = (false, none, session) := by simp [receiveNext, givenUp]
  rw [Session.receive, nothing]
  rfl

end Session

end LaunchSupervisor
