import LaunchSupervisor.Proofs.Session.Drift
import LaunchSupervisor.Supervisor

/-!
**What a change adds to the calls of a session.** Whatever is done with a session that is held adds
some calls to those on its connection, and the close if the session is given up by it. A session
that was given up adds nothing any more, so the close is the last call.

* `Adds.trans`: one change after the other adds the calls of both.
* `adds_reportDone`, `adds_tellIconCache`, `adds_receiveNext`: what the single changes add.
* `introduced`: what an introduction adds.
-/

namespace LaunchSupervisor

open Bus (Call Connection Frame Message MessageKind MessageState Scripted)

namespace Session

/-! ### What the calls say -/

/-- The message of one's own that a call sends. -/
def message? : Call → Option Message
  | .send (.message message) _ => some message
  | _ => none

/-- The answer that a call sends. -/
def answer? : Call → Option Frame
  | .send (.reply id state status) _ => some (.reply id state status)
  | _ => none

/-- Whether a call sends a message of a kind, for an operation. -/
def sends (kind : MessageKind) (operation : String) (call : Call) : Bool :=
  (message? call).any fun message =>
    decide (message.kind = kind) && decide (message.operation = operation)

/-- The answer that is due to something taken from the bus: a request that awaits handling gets one.
-/
def due? : Bus.Taken → Option Frame
  | .ok (some (.message message)) =>
    if message.awaitsHandling then
      some (.reply message.id (if isForUsAlone message then .failed else .rejected) .notSupported)
    else none
  | _ => none

/-- What is asked of a connection once the supervisor has introduced itself: it takes things, and
sends answers, the notice to the icon cache and the report. -/
inductive Routine : Call → Prop where
  | take : Routine .take
  | answer (id : UInt64) (state : MessageState) (status : Bus.StatusCode) (accepted : Bool) :
    Routine (.send (.reply id state status) accepted)
  | notice {message : Message} (kind : message.kind = .notice)
    (operation : message.operation = iconCacheOperation) (accepted : Bool) :
    Routine (.send (.message message) accepted)
  | report {message : Message} (kind : message.kind = .request)
    (operation : message.operation = doneOperation) (accepted : Bool) :
    Routine (.send (.message message) accepted)

/-! ### What a change adds to the calls -/

/-- The close that a change makes. -/
def closing (before after : Session Scripted) : List Call :=
  if before.attached && !after.attached then [.close] else []

/-- **What a change adds to the calls**: some while the session is held, and the close if it is
given up. A session that was given up stays so, and adds nothing. -/
structure Adds (before after : Session Scripted) (more : List Call) : Prop where
  calls : after.connection.calls = before.connection.calls ++ more ++ closing before after
  gone : before.attached = false → after.attached = false ∧ more = []

theorem closing_held {before after : Session Scripted} (held : after.attached) :
    closing before after = [] := by
  simp [closing, held]

theorem closing_gone {before after : Session Scripted} (gone : before.attached = false) :
    closing before after = [] := by
  simp [closing, gone]

theorem Adds.trans {first second third : Session Scripted} {some more : List Call}
    (early : Adds first second some) (late : Adds second third more) :
    Adds first third (some ++ more) := by
  cases held : second.attached with
  | false =>
    obtain ⟨gone, rfl⟩ := late.gone held
    refine ⟨?_, fun before => ⟨gone, by rw [(early.gone before).2]; rfl⟩⟩
    have same : closing first third = closing first second := by
      simp [closing, gone, held]
    rw [late.calls, early.calls, closing_gone held, same]
    simp
  | true =>
    have before : first.attached = true := by
      cases before : first.attached with
      | true => rfl
      | false => exact absurd held (by simp [(early.gone before).1])
    refine ⟨?_, fun gone => absurd before (by simp [gone])⟩
    have same : closing first third = closing second third := by
      simp [closing, before, held]
    rw [late.calls, early.calls, closing_held held, same]
    simp

/-- A change that is no loss of the session. -/
theorem adds_held {before after : Session Scripted} {more : List Call} (held : before.attached)
    (still : after.attached) (calls : after.connection.calls = before.connection.calls ++ more) :
    Adds before after more :=
  ⟨by rw [calls, closing_held still, List.append_nil], fun gone => absurd held (by simp [gone])⟩

/-- A change without a call. -/
theorem adds_nothing {before after : Session Scripted}
    (attached : after.attached = before.attached)
    (calls : after.connection.calls = before.connection.calls) : Adds before after [] := by
  refine ⟨?_, fun gone => ⟨attached.trans gone, rfl⟩⟩
  rw [calls, closing, attached]
  simp

theorem adds_detach (session : Session Scripted) : Adds session session.detach [] := by
  cases held : session.attached with
  | false =>
    rw [detach_gone held]
    exact adds_nothing rfl rfl
  | true =>
    rw [detach_held held]
    refine ⟨?_, fun gone => absurd held (by simp [gone])⟩
    simp [closing, held, Scripted.close]

theorem adds_arrive (session : Session Scripted) (items : List Bus.Taken) :
    Adds session { session with connection := session.connection.arrive items } [] :=
  adds_nothing rfl rfl

/-- Asking a held session's connection to send a frame. -/
theorem adds_sent {session : Session Scripted} (held : session.attached) (frame : Frame)
    (accepted : Bool) :
    Adds session { session with connection := session.connection.sent frame accepted }
      [.send frame accepted] :=
  adds_held held held rfl

/-- A message that nobody handles is answered, if it waits for that. -/
theorem adds_abandon {session : Session Scripted} (held : session.attached) (message : Message) :
    ∃ accepted, Adds session (session.abandon message)
      ((due? (.ok (some (.message message)))).toList.map fun frame => .send frame accepted) := by
  unfold abandon
  by_cases awaits : message.awaitsHandling
  · have due : due? (.ok (some (.message message))) = some
        (.reply message.id (if isForUsAlone message then .failed else .rejected) .notSupported) :=
      if_pos awaits
    obtain ⟨accepted, same⟩ :=
      answer_held held message (if isForUsAlone message then .failed else .rejected)
    have answered :
        (if isForUsAlone message then session.fail message else session.reject message) =
        session.answer message (if isForUsAlone message then .failed else .rejected) := by
      split <;> rfl
    rw [if_pos awaits, due, answered, same]
    exact ⟨accepted, adds_sent held _ accepted⟩
  · have nothing : due? (.ok (some (.message message))) = none := if_neg awaits
    rw [if_neg awaits, nothing]
    exact ⟨true, adds_nothing rfl rfl⟩

/-- **What is taken is answered if an answer is due**, and by nothing else. -/
theorem adds_onTaken {session : Session Scripted} (held : session.attached) (taken : Bus.Taken) :
    ∃ accepted, Adds session (session.onTaken taken).2.2
      ((due? taken).toList.map fun frame => .send frame accepted) := by
  have outcome := outcome_onTaken session taken
  generalize (session.onTaken taken).2.1 = event at outcome
  generalize (session.onTaken taken).2.2 = next at outcome ⊢
  cases outcome with
  | ignored other =>
    have nothing : due? taken = none := by
      unfold due?
      split
      · exact absurd rfl (other _)
      · rfl
    rw [nothing]
    exact ⟨true, adds_nothing rfl rfl⟩
  | unhandled message => exact adds_abandon held message
  | settled => exact ⟨true, adds_nothing rfl rfl⟩
  | refused id state status =>
    have settled : Adds session
        { session with pending := session.pending.filter fun entry => entry.1 != id } [] :=
      adds_nothing rfl rfl
    exact ⟨true, settled.trans (adds_detach _)⟩
  | lost fault => exact ⟨true, adds_detach session⟩

/-- **The next thing is taken**, and answered if an answer is due. -/
theorem adds_receiveNext {session : Session Scripted} (held : session.attached) :
    ∃ accepted, Adds session session.receiveNext.2.2
      (.take :: (due? (session.connection.inbox.headD (.ok none))).toList.map
        fun frame => .send frame accepted) := by
  have asked : Adds session { session with connection := session.connection.took } [.take] :=
    adds_held held held rfl
  obtain ⟨accepted, answered⟩ :=
    @adds_onTaken { session with connection := session.connection.took } held
      (session.connection.inbox.headD (.ok none))
  rw [receiveNext_held held]
  exact ⟨accepted, asked.trans answered⟩

/-- **What is said on one's own account**, if the next id was `id`: one message under that id, or
nothing, and the session is given up because the message could not be made. -/
inductive Said (id : UInt64) (after : Session Scripted) (kind : MessageKind) (operation : String)
    (arguments : List Bus.Argument) : List Call → Prop where
  | unmade (gone : after.attached = false) (next : after.nextId = id + 1) :
    Said id after kind operation arguments []
  | message {message : Message} (own : message.id = id) (isKind : message.kind = kind)
    (isOperation : message.operation = operation) (carries : message.arguments = arguments)
    (next : after.nextId = id + 1) (accepted : Bool) :
    Said id after kind operation arguments [.send (.message message) accepted]

/-- What a request of a held session adds. -/
theorem adds_request {session : Session Scripted} (held : session.attached)
    (request : Bus.Request) (arguments : List Bus.Argument) :
    ∃ more, Adds session (session.request request arguments) more ∧
      Said session.nextId (session.request request arguments) .request (operation request)
        arguments more ∧
      (session.request request arguments).connection.inbox = session.connection.inbox := by
  have outcome := request_cases held request arguments
  generalize session.request request arguments = next at outcome
  cases outcome with
  | unmade =>
    refine ⟨[], ?_, .unmade (attached_detach _) ?_, ?_⟩
    · have created : Adds session { session with nextId := session.nextId + 1 } [] :=
        adds_nothing rfl rfl
      exact created.trans (adds_detach _)
    · exact nextId_detach _
    · exact inbox_detach _
  | @accepted message own =>
    refine ⟨[.send (.message message) true], ?_, ?_, rfl⟩
    · exact adds_held held held rfl
    · exact .message own.id own.kind own.operation own.arguments rfl true
  | @refused message own =>
    refine ⟨[.send (.message message) false], ?_, ?_, inbox_detach _⟩
    · have asked : Adds session
          { session with
            connection := session.connection.sent (.message message) false
            nextId := session.nextId + 1 } [.send (.message message) false] :=
        adds_held held held rfl
      exact asked.trans (adds_detach _)
    · exact .message own.id own.kind own.operation own.arguments (nextId_detach _) false

/-- **A report adds its message**, at the first attempt. -/
theorem adds_reportDone (session : Session Scripted) (status : ChildStatus) :
    (session.reportDone status).doneSent ∧
      (session.reportDone status).connection.inbox = session.connection.inbox ∧
      ∃ more, Adds session (session.reportDone status) more ∧
        (more = [] ∧ (session.reportDone status).nextId = session.nextId ∨
          session.doneSent = false ∧
            Said session.nextId (session.reportDone status) .request doneOperation
              (session.callerArguments ++ [.int status.code]) more) := by
  refine ⟨doneSent_reportDone session status, ?_⟩
  cases sent : session.doneSent with
  | true =>
    rw [reportDone_again sent]
    exact ⟨rfl, [], adds_nothing rfl rfl, Or.inl ⟨rfl, rfl⟩⟩
  | false =>
    cases held : session.attached with
    | false =>
      rw [reportDone_detached sent held]
      exact ⟨rfl, [], adds_nothing rfl rfl, Or.inl ⟨rfl, rfl⟩⟩
    | true =>
      have tried : ({ session with doneSent := true } : Session Scripted).attached := held
      obtain ⟨more, adds, said, inbox⟩ :=
        adds_request tried .done (session.callerArguments ++ [.int status.code])
      rw [← reportDone_new sent] at adds said inbox
      have started : Adds session { session with doneSent := true } [] := adds_nothing rfl rfl
      exact ⟨inbox, more, started.trans adds, Or.inr ⟨rfl, said⟩⟩

/-- The notice to the icon cache, from a session that is held. -/
theorem adds_tellIconCache {session : Session Scripted} (held : session.attached)
    (action children : String) :
    (session.tellIconCache action children).2.doneSent = session.doneSent ∧
      (session.tellIconCache action children).2.connection.inbox = session.connection.inbox ∧
      ∃ more, Adds session (session.tellIconCache action children).2 more ∧
        Said session.nextId (session.tellIconCache action children).2 .notice iconCacheOperation
          [.str action, .str children] more := by
  obtain ⟨message, accepted, own, same⟩ := tellIconCache_held held action children
  rw [same]
  exact ⟨rfl, rfl, _, adds_held held held rfl,
    .message own.id own.kind own.operation own.arguments rfl accepted⟩

/-! ### The introduction -/

/-- Joining adds its frame; what else there is to a session is left. -/
theorem adds_join {session : Session Scripted} (held : session.attached) :
    session.join.nextId = session.nextId ∧
      session.join.connection.inbox = session.connection.inbox ∧
      ∃ joined, Adds session session.join [.send (.join session.connection.session) joined] := by
  have asked (joined : Bool) : Adds session
      { session with
        connection := session.connection.sent (.join session.connection.session) joined }
      [.send (.join session.connection.session) joined] :=
    adds_sent held _ joined
  rcases join_cases held with same | same
  · rw [same]
    exact ⟨rfl, rfl, true, asked true⟩
  · rw [same, nextId_detach, inbox_detach]
    exact ⟨rfl, rfl, false, (asked false).trans (adds_detach _)⟩

/-- **How a supervisor introduces itself**: it joins, and says who it is if it could join and the
caller can be addressed. Otherwise the session is given up. -/
structure Introduced (connection : Scripted) (caller : Caller) (session : Session Scripted)
    (joined : Bool) (identified : List Call) : Prop where
  adds : Adds (start connection caller) session
    (.send (.join connection.session) joined :: identified)
  identified : identified = [] ∧ session.attached = false ∨ ∃ message accepted,
    identified = [.send (.message message) accepted] ∧ message.kind = .request ∧
      message.operation = identifyOperation ∧ message.id < session.nextId
  inbox : session.connection.inbox = connection.inbox
  nextId : session.nextId.toNat ≤ 2

theorem introduced (connection : Scripted) (caller : Caller) :
    ∃ joined identified,
      Introduced connection caller (Supervisor.introduce connection caller) joined identified := by
  obtain ⟨nextId, inbox, joined, joins⟩ := @adds_join (start connection caller) rfl
  replace nextId : (start connection caller).join.nextId = 1 := nextId
  refine ⟨joined, ?_⟩
  unfold Supervisor.introduce
  generalize (start connection caller).join = session at nextId inbox joins
  have few : session.identify.nextId.toNat ≤ 2 := by
    rcases (drift_identify session).nextId with next | next <;> rw [next, nextId] <;> decide
  unfold identify at few ⊢
  cases held : session.attached with
  | false =>
    rw [request_gone held] at few ⊢
    exact ⟨[], joins, Or.inl ⟨rfl, held⟩, inbox, few⟩
  | true =>
    obtain ⟨identified, adds, said, same⟩ := adds_request held .identify
      (session.callerArguments ++ [.messageId (Connection.procid session.connection)])
    refine ⟨identified, joins.trans adds, ?_, same.trans inbox, few⟩
    cases said with
    | unmade gone => exact Or.inl ⟨rfl, gone⟩
    | message own isKind isOperation carries next accepted =>
      refine Or.inr ⟨_, accepted, rfl, isKind, isOperation, ?_⟩
      rw [own, next, nextId]
      decide

end Session

end LaunchSupervisor
