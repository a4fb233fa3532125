import LaunchSupervisor.Proofs.Session.Standing

/-!
**How the report is settled.** The caller settles it by the first reply that names the report and
says that it was handled or has failed. Nothing else does: messages under its id, replies to other
requests, news on the way and repeated replies are all without effect.

* `settled_by_first_reply`: the statement, for every life that does not run out of ids.
* `passed_receive`: what a pass over the bus brings.
-/

namespace LaunchSupervisor

open Bus (Message MessageKind Scripted)

namespace Session

/-! ### What a pass over the bus brings -/

/-- **The session is lost with the news of it**, and never otherwise. -/
theorem attached_onTaken {session : Session Scripted} (held : session.attached)
    (taken : Bus.Taken) :
    (session.onTaken taken).2.2.attached =
      !(session.onTaken taken).2.1.any SessionEvent.isLoss := by
  have outcome := outcome_onTaken session taken
  generalize (session.onTaken taken).2.1 = event at outcome ⊢
  generalize (session.onTaken taken).2.2 = next at outcome ⊢
  cases outcome with
  | ignored => exact held
  | unhandled message =>
    obtain ⟨connection, same, -⟩ := abandon_eq session message
    rw [same]
    exact held
  | settled id state status harmless =>
    rw [harmless]
    exact held
  | refused id state status loss =>
    rw [Option.any_some, loss]
    exact attached_detach _
  | lost fault => exact attached_detach session

theorem attached_receiveNext {session : Session Scripted} (held : session.attached) :
    session.receiveNext.2.2.attached =
      !session.receiveNext.2.1.any SessionEvent.isLoss := by
  rw [receiveNext_held held]
  exact @attached_onTaken { session with connection := session.connection.took } held _

/-- **What a pass has brought**: news that are no loss and, if the session is lost, its loss at the
end. -/
inductive Passed : List SessionEvent → Bool → Prop where
  | kept {events : List SessionEvent} (harmless : ∀ event ∈ events, event.isLoss = false) :
    Passed events true
  | lost {earlier : List SessionEvent} {last : SessionEvent} (loss : last.isLoss)
    (harmless : ∀ event ∈ earlier, event.isLoss = false) : Passed (earlier ++ [last]) false

theorem Passed.prepend {first events : List SessionEvent} {attached : Bool}
    (early : Passed first true) (passed : Passed events attached) :
    Passed (first ++ events) attached := by
  cases early with
  | kept before =>
    cases passed with
    | kept harmless =>
      exact .kept fun event learnt => (List.mem_append.mp learnt).elim (before event)
        (harmless event)
    | @lost earlier last loss harmless =>
      rw [← List.append_assoc]
      exact .lost loss fun event learnt => (List.mem_append.mp learnt).elim (before event)
        (harmless event)

theorem passed_next {session : Session Scripted} (held : session.attached) :
    Passed session.receiveNext.2.1.toList session.receiveNext.2.2.attached := by
  rw [attached_receiveNext held]
  cases session.receiveNext.2.1 with
  | none => exact .kept fun event learnt => by cases learnt
  | some event =>
    cases loss : event.isLoss with
    | false => simpa [loss] using @Passed.kept [event] (by simpa using loss)
    | true => simpa [loss] using @Passed.lost [] event loss (by simp)

/-- **A pass over the bus** loses the session at its end or not at all. -/
theorem passed_receive {session : Session Scripted} (held : session.attached) :
    Passed session.receive.1 session.receive.2.attached := by
  fun_induction Session.receive session with
  | case1 session event rest next =>
    have first := passed_next held
    rwa [next] at first
  | case2 session event rest next ih =>
    have first := passed_next held
    rw [next] at first
    dsimp only at first ⊢
    cases still : rest.attached with
    | false =>
      rw [receive_detached still, List.append_nil, still]
      rwa [still] at first
    | true =>
      rw [still] at first
      exact first.prepend (ih still)

/-- So it is lost exactly if there was one loss, and nothing comes after that. -/
theorem Passed.lost_iff {events : List SessionEvent} {attached : Bool}
    (passed : Passed events attached) :
    (attached = false ↔ events.countP SessionEvent.isLoss = 1) ∧
      ∀ earlier event later, events = earlier ++ event :: later → event.isLoss →
        later = [] := by
  have none_lost {events : List SessionEvent}
      (harmless : ∀ event ∈ events, event.isLoss = false) :
      events.countP SessionEvent.isLoss = 0 :=
    List.countP_eq_zero.mpr fun event learnt => by simp [harmless event learnt]
  cases passed with
  | kept harmless =>
    refine ⟨by simp [none_lost harmless], ?_⟩
    rintro earlier event later rfl loss
    simp [harmless event (by simp)] at loss
  | @lost before last isLoss harmless =>
    refine ⟨by simp [none_lost harmless, isLoss], fun earlier event later same loss => ?_⟩
    rcases List.eq_nil_or_concat later with rfl | ⟨front, final, rfl⟩
    · rfl
    · rw [List.concat_eq_append, ← List.cons_append, ← List.append_assoc] at same
      obtain ⟨rfl, -⟩ := List.append_inj' same rfl
      simp [harmless event (by simp)] at loss

/-! ### The report is settled once -/

theorem keeps_of_doneReplied {session : Session Scripted}
    (learnt : session.receiveNext.2.1 = some .doneReplied) : session.receiveNext.2.2.attached := by
  cases held : session.attached with
  | false => simp [receiveNext_gone held] at learnt
  | true => simp [attached_receiveNext held, learnt, SessionEvent.isLoss]

/-- **The report is settled by the first reply that settles it**, while the session is held and
after the report was accepted: what is learnt of it over a whole life is that verdict, once, or
nothing. A report that was handled keeps the session, one that has failed ends it, and a pass over
the bus loses the session exactly if it brings one loss, which then comes last. -/
theorem settled_by_first_reply (connection : Scripted) (caller : Caller) (uses : List Use)
    (few : (Life.ofUses connection caller uses).idsUsed < UInt64.size) :
    let life := Life.ofUses connection caller uses
    life.learnt.filter SessionEvent.isVerdict = (verdict? life.history).toList ∧
      (∀ session : Session Scripted,
        (session.receiveNext.2.1 = some .doneReplied → session.receiveNext.2.2.attached) ∧
        (session.receiveNext.2.1 = some .doneFailed →
          session.receiveNext.2.2.attached = false)) ∧
      (life.session.attached →
        (life.session.receive.2.attached = false ↔
          life.session.receive.1.countP SessionEvent.isLoss = 1) ∧
        ∀ earlier event later, life.session.receive.1 = earlier ++ event :: later →
          event.isLoss → later = []) :=
  ⟨(standing_ofUses connection caller uses few).learnt,
    fun _ => ⟨keeps_of_doneReplied, receiveNext_doneFailed⟩,
    fun held => (passed_receive held).lost_iff⟩

/-- News on the way, a message under the id of the report and all that is said after its verdict are
without effect. -/
theorem settled_by_second_reply :
    let caller : Caller := { procid := "dtsvc.9", invocation := 12, child := 34 }
    let message : Message :=
      { id := 2, kind := .request, scope := .session, address := .handler,
        handler := some "dtexec.1", operation := "Quit", arguments := [], state := .sent,
        status := .ok }
    let uses : List Use := [.join, .identify, .reportDone .done,
      .arrive [.ok (some (.reply 1 .handled .ok)), .ok (some (.reply 2 .sent .ok)),
        .ok (some (.message message)), .ok (some (.reply 2 .handled .ok)),
        .ok (some (.reply 2 .failed .ok))], .receive]
    let life := Life.ofUses {} caller uses
    life.idsUsed < UInt64.size ∧ life.learnt.filter SessionEvent.isVerdict = [.doneReplied] := by
  intro caller message uses life
  have few : life.idsUsed < UInt64.size := by decide +kernel
  have verdict : verdict? life.history = some .doneReplied := by decide +kernel
  refine ⟨few, ?_⟩
  rw [(settled_by_first_reply {} caller uses few).1, verdict]
  rfl

end Session

end LaunchSupervisor
