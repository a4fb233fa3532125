import LaunchSupervisor.Proofs.Session.Life

/-!
**What is done with a session besides reporting and receiving** leaves the requests it awaits as
they are, adds the one that tells who the supervisor is, or gives the session up. At most one id is
used.

* `drift_use`: the statement, for every such use.
-/

namespace LaunchSupervisor

open Bus (Call Connection Frame Message MessageKind MessageState Scripted)

namespace Session

/-- What a use does to the requests of a session, if it makes no report: they are left, another one
is awaited, or the session is given up. -/
structure Drift (before after : Session Scripted) : Prop where
  doneSent : after.doneSent = before.doneSent
  nextId : after.nextId = before.nextId ∨ after.nextId = before.nextId + 1
  requests :
    after.attached = before.attached ∧ after.pending = before.pending ∨
      after.attached ∧ before.attached ∧ after.nextId = before.nextId + 1 ∧
        after.pending = (before.nextId, .identify) :: before.pending ∨
      after.attached = false ∧ after.pending = []

theorem drift_connection (session : Session Scripted) (connection : Scripted) :
    Drift session { session with connection } :=
  ⟨rfl, Or.inl rfl, Or.inl ⟨rfl, rfl⟩⟩

theorem drift_created (session : Session Scripted) (connection : Scripted) :
    Drift session { session with connection, nextId := session.nextId + 1 } :=
  ⟨rfl, Or.inr rfl, Or.inl ⟨rfl, rfl⟩⟩

/-- Giving the session up after something else. -/
theorem Drift.detach {before after : Session Scripted} (drift : Drift before after)
    (held : after.attached) : Drift before after.detach := by
  rw [detach_held held]
  exact ⟨drift.doneSent, drift.nextId, Or.inr (Or.inr ⟨rfl, rfl⟩)⟩

theorem drift_detach (session : Session Scripted) : Drift session session.detach := by
  cases held : session.attached with
  | true => exact (drift_connection session session.connection).detach held
  | false =>
    rw [detach_gone held]
    exact drift_connection session session.connection

theorem drift_answer (session : Session Scripted) (message : Message) (state : MessageState) :
    Drift session (session.answer message state) := by
  obtain ⟨connection, same, -⟩ := answer_eq session message state
  rw [same]
  exact drift_connection session connection

theorem drift_abandon (session : Session Scripted) (message : Message) :
    Drift session (session.abandon message) := by
  obtain ⟨connection, same, -⟩ := abandon_eq session message
  rw [same]
  exact drift_connection session connection

theorem drift_join (session : Session Scripted) : Drift session session.join := by
  cases held : session.attached with
  | false =>
    rw [join_gone held]
    exact drift_connection session session.connection
  | true =>
    rcases join_cases held with same | same
    · rw [same]
      exact drift_connection session _
    · rw [same]
      exact (drift_connection session _).detach held

theorem drift_identify (session : Session Scripted) : Drift session session.identify := by
  unfold identify
  cases held : session.attached with
  | false =>
    rw [request_gone held]
    exact drift_connection session session.connection
  | true =>
    have outcome := request_cases held .identify
      (session.callerArguments ++ [.messageId (Connection.procid session.connection)])
    generalize session.request .identify _ = next at outcome
    cases outcome with
    | unmade => exact (drift_created session session.connection).detach held
    | refused own => exact (drift_created session _).detach held
    | accepted own =>
      refine ⟨rfl, Or.inr rfl, Or.inr (Or.inl ⟨held, held, rfl, ?_⟩)⟩
      rw [own.id]

theorem drift_send (session : Session Scripted) (message : Message) :
    Drift session (session.send message).2.2 := by
  cases held : session.attached with
  | false =>
    rw [send_gone held]
    exact drift_connection session session.connection
  | true =>
    obtain ⟨accepted, same⟩ := send_held held message
    rw [same]
    exact drift_connection session _

theorem drift_tellIconCache (session : Session Scripted) (action children : String) :
    Drift session (session.tellIconCache action children).2 := by
  cases held : session.attached with
  | false =>
    rw [tellIconCache_gone held]
    exact drift_created session session.connection
  | true =>
    obtain ⟨message, accepted, -, same⟩ := tellIconCache_held held action children
    rw [same]
    exact drift_created session _

/-- **Whatever is neither a report nor a pass over the bus** is such a use, and teaches nothing. -/
theorem drift_use (session : Session Scripted) {use : Use}
    (silent : ∀ status, use ≠ .reportDone status) (deaf : use ≠ .receive) :
    (session.use use).1 = [] ∧ Drift session (session.use use).2 := by
  cases use with
  | join => exact ⟨rfl, drift_join session⟩
  | identify => exact ⟨rfl, drift_identify session⟩
  | reportDone status => exact absurd rfl (silent status)
  | tellIconCache action children => exact ⟨rfl, drift_tellIconCache session action children⟩
  | create kind handler operation arguments =>
    exact ⟨rfl, drift_created session session.connection⟩
  | send message => exact ⟨rfl, drift_send session message⟩
  | destroy message => exact ⟨rfl, drift_connection session session.connection⟩
  | reject message => exact ⟨rfl, drift_answer session message .rejected⟩
  | fail message => exact ⟨rfl, drift_answer session message .failed⟩
  | abandon message => exact ⟨rfl, drift_abandon session message⟩
  | detach => exact ⟨rfl, drift_detach session⟩
  | receive => exact absurd rfl deaf
  | arrive items => exact ⟨rfl, drift_connection session _⟩

/-- An id is followed by another one. -/
theorem next_ne (id : UInt64) : id + 1 ≠ id := by
  intro same
  have wrapped := congrArg UInt64.toNat same
  have bound := id.toNat_lt
  rw [UInt64.toNat_add] at wrapped
  simp only [UInt64.reduceToNat] at wrapped
  omega

end Session

end LaunchSupervisor
