import LaunchSupervisor.Proofs.Session.Exchange

/-!
**The life of a session.** A session is used in any order and as often as one likes, and things
arrive for it in between. A `Life` goes along and takes down what the supervisor has learnt, when
the report was accepted, what was taken from the bus, and how many ids were used.

* `use_gone`: a session that was given up stays so, whatever is done with it, and asks nothing more.
* `takenBetween_trans`, `inbox_receiveNext`: what is taken is taken off the front of the inbox.
-/

namespace LaunchSupervisor

open Bus (Call Connection Frame Message MessageKind MessageState Scripted)

namespace Session

/-- Something that is asked of a session, or that arrives for it. -/
inductive Use where
  | join
  | identify
  | reportDone (status : ChildStatus)
  | tellIconCache (action children : String)
  | create (kind : MessageKind) (handler : Option String) (operation : String)
    (arguments : List Bus.Argument)
  | send (message : Message)
  | destroy (message : Message)
  | reject (message : Message)
  | fail (message : Message)
  | abandon (message : Message)
  | detach
  | receive
  | arrive (items : List Bus.Taken)

/-- What is learnt by a use, and the session after it. -/
def use (session : Session Scripted) : Use → List SessionEvent × Session Scripted
  | .join => ([], session.join)
  | .identify => ([], session.identify)
  | .reportDone status => ([], session.reportDone status)
  | .tellIconCache action children => ([], (session.tellIconCache action children).2)
  | .create kind handler operation arguments =>
    ([], (session.create kind handler operation arguments).2)
  | .send message => ([], (session.send message).2.2)
  | .destroy _ => ([], session)
  | .reject message => ([], session.reject message)
  | .fail message => ([], session.fail message)
  | .abandon message => ([], session.abandon message)
  | .detach => ([], session.detach)
  | .receive => session.receive
  | .arrive items => ([], { session with connection := session.connection.arrive items })

/-- **A session that was given up stays so,** and asks nothing more of its connection. -/
theorem use_gone {session : Session Scripted} (gone : session.attached = false) (use : Use) :
    (session.use use).2.attached = false ∧
      (session.use use).2.connection.calls = session.connection.calls := by
  cases use with
  | join => simp [Session.use, Session.join, gone]
  | identify => simp [Session.use, Session.identify, request_gone gone, gone]
  | reportDone status =>
    cases sent : session.doneSent with
    | true => simp [Session.use, reportDone_again sent, gone]
    | false => simp [Session.use, reportDone_detached sent gone, gone]
  | tellIconCache action children => simp [Session.use, tellIconCache_gone gone, gone]
  | create kind handler operation arguments => exact ⟨gone, rfl⟩
  | send message => simp [Session.use, send_gone gone, gone]
  | destroy message => exact ⟨gone, rfl⟩
  | reject message => simp [Session.use, Session.reject, answer_gone gone, gone]
  | fail message => simp [Session.use, Session.fail, answer_gone gone, gone]
  | abandon message =>
    simp [Session.use, Session.abandon, Session.reject, Session.fail, answer_gone gone, gone]
  | detach => simp [Session.use, detach_gone gone, gone]
  | receive => simp [Session.use, receive_detached gone, gone]
  | arrive items => exact ⟨gone, rfl⟩

/-! ### What is taken from the bus -/

/-- What was taken from the bus between two states of a session. -/
def takenBetween (before after : Session Scripted) : List Bus.Taken :=
  before.connection.inbox.take
    (before.connection.inbox.length - after.connection.inbox.length)

theorem takenBetween_eq {before after : Session Scripted} (items : List Bus.Taken)
    (inbox : before.connection.inbox = items ++ after.connection.inbox) :
    takenBetween before after = items := by
  unfold takenBetween
  rw [inbox, List.length_append, Nat.add_sub_cancel, List.take_left]

theorem takenBetween_append {before after : Session Scripted}
    (suffix : after.connection.inbox <:+ before.connection.inbox) :
    takenBetween before after ++ after.connection.inbox = before.connection.inbox := by
  obtain ⟨items, inbox⟩ := suffix
  rw [takenBetween_eq items inbox.symm, inbox]

theorem takenBetween_trans {first second third : Session Scripted}
    (early : second.connection.inbox <:+ first.connection.inbox)
    (late : third.connection.inbox <:+ second.connection.inbox) :
    takenBetween first third = takenBetween first second ++ takenBetween second third := by
  refine takenBetween_eq _ ?_
  rw [List.append_assoc, takenBetween_append late, takenBetween_append early]

theorem inbox_detach (session : Session Scripted) :
    session.detach.connection.inbox = session.connection.inbox := by
  unfold detach
  split <;> rfl

theorem inbox_onTaken (session : Session Scripted) (taken : Bus.Taken) :
    (session.onTaken taken).2.2.connection.inbox = session.connection.inbox := by
  have outcome := outcome_onTaken session taken
  generalize (session.onTaken taken).2.1 = event at outcome
  generalize (session.onTaken taken).2.2 = next at outcome ⊢
  cases outcome with
  | ignored | settled => rfl
  | unhandled message =>
    obtain ⟨connection, same, inbox⟩ := abandon_eq session message
    rw [same]
    exact inbox
  | refused | lost => exact inbox_detach _

/-- **Taking the next thing** leaves the rest. -/
theorem inbox_receiveNext {session : Session Scripted} (held : session.attached) :
    session.receiveNext.2.2.connection.inbox = session.connection.inbox.tail := by
  rw [receiveNext_held held, inbox_onTaken]
  rfl

theorem inbox_receiveNext_suffix (session : Session Scripted) :
    session.receiveNext.2.2.connection.inbox <:+ session.connection.inbox := by
  cases held : session.attached with
  | false =>
    exact ⟨[], by rw [receiveNext_gone held]; rfl⟩
  | true =>
    rw [inbox_receiveNext held]
    exact List.tail_suffix _

theorem inbox_receive_suffix (session : Session Scripted) :
    session.receive.2.connection.inbox <:+ session.connection.inbox := by
  fun_induction Session.receive session with
  | case1 session event rest next =>
    have suffix := inbox_receiveNext_suffix session
    rwa [next] at suffix
  | case2 session event rest next ih =>
    have suffix := inbox_receiveNext_suffix session
    rw [next] at suffix
    exact ih.trans suffix

/-! ### What is taken uses no id -/

theorem nextId_detach (session : Session Scripted) : session.detach.nextId = session.nextId := by
  unfold detach
  split <;> rfl

theorem nextId_onTaken (session : Session Scripted) (taken : Bus.Taken) :
    (session.onTaken taken).2.2.nextId = session.nextId := by
  have outcome := outcome_onTaken session taken
  generalize (session.onTaken taken).2.1 = event at outcome
  generalize (session.onTaken taken).2.2 = next at outcome ⊢
  cases outcome with
  | ignored | settled => rfl
  | unhandled message =>
    obtain ⟨connection, same, -⟩ := abandon_eq session message
    rw [same]
  | refused | lost => exact nextId_detach _

theorem nextId_receiveNext (session : Session Scripted) :
    session.receiveNext.2.2.nextId = session.nextId := by
  cases held : session.attached with
  | false => rw [receiveNext_gone held]
  | true =>
    rw [receiveNext_held held, nextId_onTaken]

theorem nextId_receive (session : Session Scripted) :
    session.receive.2.nextId = session.nextId := by
  fun_induction Session.receive session with
  | case1 session event rest next =>
    have same := nextId_receiveNext session
    rwa [next] at same
  | case2 session event rest next ih =>
    have same := nextId_receiveNext session
    rw [next] at same
    exact ih.trans same

/-! ### The life -/

/-- Something on which the report of a session depends. -/
inductive Occurrence where
  /-- The report was sent and accepted, under this id. -/
  | reported (id : UInt64)
  /-- This was taken from the bus. -/
  | taken (taken : Bus.Taken)

/-- What a use adds to the history of a session, between the states before and after it. -/
def occurrences (before after : Session Scripted) : Use → List Occurrence
  | .reportDone _ =>
    (reportsSince before after).filterMap fun report =>
      if report.2 then some (.reported report.1.id) else none
  | .receive => (takenBetween before after).map .taken
  | _ => []

/-- A session with what has happened in its life. -/
structure Life where
  session : Session Scripted
  /-- What the supervisor has learnt from it, in order. -/
  learnt : List SessionEvent := []
  history : List Occurrence := []
  /-- How many ids its messages have used up. -/
  idsUsed : Nat := 0

namespace Life

/-- A life with one more use of the session. -/
def after (life : Life) (use : Use) : Life :=
  let next := life.session.use use
  { session := next.2
    learnt := life.learnt ++ next.1
    history := life.history ++ occurrences life.session next.2 use
    idsUsed := life.idsUsed + if next.2.nextId = life.session.nextId then 0 else 1 }

/-- The life of a session from its start. -/
def ofUses (connection : Scripted) (caller : Caller) (uses : List Use) : Life :=
  uses.foldl after { session := start connection caller }

theorem ofUses_concat (connection : Scripted) (caller : Caller) (uses : List Use) (use : Use) :
    ofUses connection caller (uses ++ [use]) = (ofUses connection caller uses).after use := by
  simp [ofUses]

theorem idsUsed_le_after (life : Life) (use : Use) : life.idsUsed ≤ (life.after use).idsUsed :=
  Nat.le_add_right _ _

end Life

end Session

end LaunchSupervisor
