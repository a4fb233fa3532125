import LaunchSupervisor.Proofs.Session.Report

/-!
**What each operation of a session comes to.** On a scripted connection every operation has a few
outcomes, and each of them is written out here as the session it leaves. A session that was given up
asks nothing more of its connection.

* `request_cases`: a request is not made, accepted, or refused; only an accepted one is awaited.
* `send_eq`, `tellIconCache_eq`: what is sent by one's own accord, on any connection.
* `tellIconCache_held`, `answer_held`: a message that fails to go out is let go.
* `receiveNext_held`, `outcome_onTaken`: the next thing is taken, and what comes of it.
-/

namespace LaunchSupervisor

open Bus (Call Connection Frame Message MessageKind MessageState Scripted)

/-! ### The connection -/

namespace Bus.Scripted

/-- The connection once it was asked to send a frame. -/
def sent (connection : Scripted) (frame : Frame) (accepted : Bool) : Scripted :=
  { connection with
    sends := connection.sends + 1
    calls := connection.calls ++ [.send frame accepted] }

/-- The connection once it was asked for the next thing. -/
def took (connection : Scripted) : Scripted :=
  { connection with
    inbox := connection.inbox.tail
    calls := connection.calls ++ [.take] }

theorem send_cases (connection : Scripted) (frame : Frame) :
    connection.send frame = (.ok (), connection.sent frame true) ∨
      ∃ fault, connection.send frame = (.error fault, connection.sent frame false) := by
  unfold send
  split
  · exact Or.inl rfl
  · exact Or.inr ⟨_, rfl⟩

theorem send_eq (connection : Scripted) (frame : Frame) :
    ∃ accepted, (connection.send frame).2 = connection.sent frame accepted := by
  rcases connection.send_cases frame with same | ⟨fault, same⟩
  · exact ⟨true, congrArg Prod.snd same⟩
  · exact ⟨false, congrArg Prod.snd same⟩

theorem take_eq (connection : Scripted) :
    connection.take = (connection.inbox.headD (.ok none), connection.took) := by
  unfold take took
  split
  · rename_i nothing
    simp [nothing]
  · rename_i taken rest some
    simp [some]

end Bus.Scripted

/-- A message that was made has what was asked for. -/
theorem Bus.Message.build_made {id : UInt64} {kind : MessageKind} {handler : Option String}
    {operation : String} {arguments : List Argument} {message : Message}
    (built : build id kind handler operation arguments = .ok message) :
    message.id = id ∧ message.kind = kind ∧ message.operation = operation ∧
      message.arguments = arguments := by
  unfold build at built
  split at built
  · cases built
  · cases handler with
    | none =>
      cases built
      exact ⟨rfl, rfl, rfl, rfl⟩
    | some name =>
      dsimp only at built
      split at built
      · cases built
      · cases built
        exact ⟨rfl, rfl, rfl, rfl⟩

/-- Whether something learnt comes with the end of the session. -/
def SessionEvent.isLoss : SessionEvent → Bool
  | .doneReplied => false
  | .doneFailed => true
  | .detached => true

namespace Session

/-! ### Giving up -/

theorem detach_held {session : Session Scripted} (held : session.attached) :
    session.detach =
      { session with
        connection := session.connection.close, attached := false, pending := [] } :=
  if_pos held

theorem detach_gone {session : Session Scripted} (gone : session.attached = false) :
    session.detach = session := by
  unfold detach
  rw [gone]
  rfl

/-- A session that cannot join is given up. -/
theorem join_cases {session : Session Scripted} (held : session.attached) :
    session.join =
        { session with
          connection := session.connection.sent (.join session.connection.session) true } ∨
      session.join =
        detach { session with
          connection := session.connection.sent (.join session.connection.session) false } := by
  unfold join sendOrDetach
  rw [if_pos held]
  rcases session.connection.send_cases (.join session.connection.session) with
    same | ⟨fault, same⟩
  · left
    simp only [Connection.send, Connection.session, same]
  · right
    simp only [Connection.send, Connection.session, same]

theorem join_gone {session : Session Scripted} (gone : session.attached = false) :
    session.join = session := by
  unfold join
  rw [gone]
  rfl

/-! ### Messages on any connection -/

section

variable {κ : Type} [Connection κ]

/-- A session that is held asks its connection once, and only the connection changes. -/
theorem send_eq {session : Session κ} (held : session.attached) (message : Message) :
    (session.send message).2.2 =
      { session with
        connection :=
          (Connection.send session.connection (.message { message with state := .sent })).2 } := by
  unfold send
  rw [if_pos held]
  split <;> rename_i sent <;> rw [sent]

/-- The message by which the icon cache is told of the children of an action. -/
def iconCacheMessage (id : UInt64) (action children : String) : Message :=
  { id, kind := .notice, scope := .session, address := .procedure, handler := none
    operation := iconCacheOperation, arguments := [.str action, .str children]
    state := .sent, status := .ok }

/-- The icon cache is told in one message, and the connection may refuse it. -/
theorem tellIconCache_eq {session : Session κ} (held : session.attached)
    (action children : String) :
    (session.tellIconCache action children).2 =
      { session with
        connection := (Connection.send session.connection
          (.message (iconCacheMessage session.nextId action children))).2
        nextId := session.nextId + 1 } := by
  have named : Text.allBlank iconCacheOperation.toList = false := by decide
  have built : Message.build session.nextId .notice none iconCacheOperation
      [.str action, .str children] =
      .ok { iconCacheMessage session.nextId action children with state := .created } := by
    unfold Message.build
    rw [named]
    rfl
  have next : ({ session with nextId := session.nextId + 1 } : Session κ).attached := held
  unfold tellIconCache create
  rw [built]
  exact send_eq next _

end

/-! ### Messages of one's own -/

/-- Whether a message of a session is of a kind and has an operation, and bears the next id. -/
structure Own (session : Session Scripted) (kind : MessageKind) (operation : String)
    (arguments : List Bus.Argument) (message : Message) : Prop where
  id : message.id = session.nextId
  kind : message.kind = kind
  operation : message.operation = operation
  arguments : message.arguments = arguments

theorem own_of_created {session next : Session Scripted} {kind : MessageKind}
    {handler : Option String} {operation : String} {arguments : List Bus.Argument}
    {message : Message} (state : MessageState)
    (created : session.create kind handler operation arguments = (.ok message, next)) :
    Own session kind operation arguments { message with state } ∧
      next = { session with nextId := session.nextId + 1 } := by
  have built : Message.build session.nextId kind handler operation arguments = .ok message :=
    congrArg Prod.fst created
  obtain ⟨id, kind, operation, arguments⟩ := Message.build_made built
  exact ⟨⟨id, kind, operation, arguments⟩, (congrArg Prod.snd created).symm⟩

theorem send_gone {session : Session Scripted} (gone : session.attached = false)
    (message : Message) : (session.send message).2.2 = session := by
  unfold send
  rw [gone]
  rfl

theorem send_held {session : Session Scripted} (held : session.attached) (message : Message) :
    ∃ accepted, (session.send message).2.2 =
      { session with
        connection := session.connection.sent (.message { message with state := .sent })
          accepted } := by
  obtain ⟨accepted, same⟩ :=
    session.connection.send_eq (.message { message with state := .sent })
  refine ⟨accepted, ?_⟩
  rw [send_eq held, ← same]
  rfl

theorem tellIconCache_gone {session : Session Scripted} (gone : session.attached = false)
    (action children : String) :
    (session.tellIconCache action children).2 =
      { session with nextId := session.nextId + 1 } := by
  have left : ({ session with nextId := session.nextId + 1 } : Session Scripted).attached = false :=
    gone
  unfold tellIconCache
  split
  · rename_i created
    exact (congrArg Prod.snd created).symm
  · rename_i message next created
    obtain ⟨-, rfl⟩ := own_of_created .created created
    exact send_gone left message

theorem tellIconCache_held {session : Session Scripted} (held : session.attached)
    (action children : String) :
    ∃ message accepted,
      Own session .notice iconCacheOperation [.str action, .str children] message ∧
      (session.tellIconCache action children).2 =
        { session with
          connection := session.connection.sent (.message message) accepted
          nextId := session.nextId + 1 } := by
  let message := iconCacheMessage session.nextId action children
  obtain ⟨accepted, same⟩ := session.connection.send_eq (.message message)
  refine ⟨message, accepted, ⟨rfl, rfl, rfl, rfl⟩, ?_⟩
  rw [tellIconCache_eq held, ← same]
  rfl

/-- **The outcomes of a request** of a session that is held. -/
inductive Requested (session : Session Scripted) (request : Bus.Request)
    (arguments : List Bus.Argument) : Session Scripted → Prop where
  | unmade : Requested session request arguments
      (detach { session with nextId := session.nextId + 1 })
  | accepted {message : Message}
    (own : Own session .request (operation request) arguments message) :
    Requested session request arguments
      { session with
        connection := session.connection.sent (.message message) true
        nextId := session.nextId + 1
        pending := (message.id, request) :: session.pending }
  | refused {message : Message}
    (own : Own session .request (operation request) arguments message) :
    Requested session request arguments
      (detach { session with
        connection := session.connection.sent (.message message) false
        nextId := session.nextId + 1 })

theorem request_cases {session : Session Scripted} (held : session.attached)
    (request : Bus.Request) (arguments : List Bus.Argument) :
    Requested session request arguments (session.request request arguments) := by
  unfold Session.request
  rw [if_pos held]
  split
  · rename_i fault next created
    have left : { session with nextId := session.nextId + 1 } = next := congrArg Prod.snd created
    rw [← left]
    exact .unmade
  · rename_i message next created
    obtain ⟨own, rfl⟩ := own_of_created .sent created
    have still : ({ session with nextId := session.nextId + 1 } : Session Scripted).attached :=
      held
    unfold send
    rw [if_pos still]
    rcases session.connection.send_cases (.message { message with state := .sent }) with
      same | ⟨fault, same⟩
    · simp only [Connection.send, same]
      exact .accepted own
    · simp only [Connection.send, same]
      exact .refused own

theorem request_gone {session : Session Scripted} (gone : session.attached = false)
    (request : Bus.Request) (arguments : List Bus.Argument) :
    session.request request arguments = session := by
  unfold Session.request
  rw [gone]
  rfl

/-- The first report is a request. -/
theorem reportDone_new {session : Session Scripted} (unsent : session.doneSent = false)
    (status : ChildStatus) :
    session.reportDone status = request { session with doneSent := true } .done
      (session.callerArguments ++ [.int status.code]) := by
  unfold reportDone
  rw [unsent]
  rfl

/-! ### Messages of others -/

theorem answer_gone {session : Session Scripted} (gone : session.attached = false)
    (message : Message) (state : MessageState) : session.answer message state = session := by
  unfold answer
  rw [gone]
  rfl

theorem answer_held {session : Session Scripted} (held : session.attached) (message : Message)
    (state : MessageState) :
    ∃ accepted, session.answer message state =
      { session with
        connection := session.connection.sent (.reply message.id state .notSupported)
          accepted } := by
  obtain ⟨accepted, same⟩ :=
    session.connection.send_eq (.reply message.id state .notSupported)
  refine ⟨accepted, ?_⟩
  unfold answer
  rw [if_pos held]
  exact congrArg (fun connection => { session with connection }) same

/-- An answer changes nothing but the connection, and leaves what can be taken. -/
theorem answer_eq (session : Session Scripted) (message : Message) (state : MessageState) :
    ∃ connection, session.answer message state = { session with connection } ∧
      connection.inbox = session.connection.inbox := by
  by_cases held : session.attached
  · obtain ⟨accepted, same⟩ := answer_held held message state
    exact ⟨_, same, rfl⟩
  · exact ⟨session.connection, answer_gone (Bool.eq_false_iff.mpr held) message state, rfl⟩

/-- So does getting rid of a message. -/
theorem abandon_eq (session : Session Scripted) (message : Message) :
    ∃ connection, session.abandon message = { session with connection } ∧
      connection.inbox = session.connection.inbox := by
  unfold abandon
  split
  · split
    · exact session.answer_eq message .failed
    · exact session.answer_eq message .rejected
  · exact ⟨session.connection, rfl, rfl⟩

/-- **What comes of something that is taken**: it is passed over; it is a message that nobody
handles, or a reply by which a request is settled, or by which the session ends; or the bus is
lost. -/
inductive Outcome (session : Session Scripted) :
    Bus.Taken → Option SessionEvent → Session Scripted → Prop where
  | ignored {taken : Bus.Taken} (other : ∀ message, taken ≠ .ok (some (.message message))) :
    Outcome session taken none session
  | unhandled (message : Message) :
    Outcome session (.ok (some (.message message))) none (session.abandon message)
  | settled (id : UInt64) (state : MessageState) (status : Bus.StatusCode)
    {event : Option SessionEvent} (harmless : event.any SessionEvent.isLoss = false) :
    Outcome session (.ok (some (.reply id state status))) event
      { session with pending := session.pending.filter fun entry => entry.1 != id }
  | refused (id : UInt64) (state : MessageState) (status : Bus.StatusCode)
    {event : SessionEvent} (loss : event.isLoss) :
    Outcome session (.ok (some (.reply id state status))) (some event)
      (detach { session with pending := session.pending.filter fun entry => entry.1 != id })
  | lost (fault : Bus.Fault) : Outcome session (.error fault) (some .detached) session.detach

theorem outcome_onTaken (session : Session Scripted) (taken : Bus.Taken) :
    Outcome session taken (session.onTaken taken).2.1 (session.onTaken taken).2.2 := by
  unfold onTaken
  split
  · exact .ignored fun _ same => by cases same
  · rename_i frame
    cases frame with
    | reply id state status =>
      show Outcome session _ (session.onReply id state).1 (session.onReply id state).2
      unfold onReply
      split
      · exact .ignored fun _ same => by cases same
      · rename_i request _
        cases request <;> cases state <;> first
          | exact .ignored fun _ same => by cases same
          | exact .settled id _ status rfl
          | exact .refused id _ status rfl
    | message message => exact .unhandled message
    | openRequest | opened procid joined | join joined | quit left =>
      exact .ignored fun _ same => by cases same
  · exact .ignored fun _ same => by cases same
  · exact .lost _

theorem receiveNext_gone {session : Session Scripted} (gone : session.attached = false) :
    session.receiveNext = (false, none, session) := by
  unfold receiveNext
  rw [gone]
  rfl

/-- **The next thing is taken and seen to.** -/
theorem receiveNext_held {session : Session Scripted} (held : session.attached) :
    session.receiveNext =
      onTaken { session with connection := session.connection.took }
        (session.connection.inbox.headD (.ok none)) := by
  unfold receiveNext
  rw [if_pos held]
  simp only [Connection.take, session.connection.take_eq]

end Session

end LaunchSupervisor
