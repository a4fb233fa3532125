import LaunchSupervisor.Proofs.Session.Quiet

/-!
**Making the report.** Of the four outcomes of an attempt to report the end of the command only one
reaches the caller. The attempt is made once, and its answer is told from all others by its id.

* `reportDone_heard`, `reportDone_unheard`: a report from a held session is accepted, or the
  session is gone.
* `Since`: what holds between a session and all that later becomes of it; `Since.quiet` and
  `Since.reportDone` are the steps.
* `heardSince_reportDone_iff`: when the caller hears of the end.
* `receiveNext_doneReplied`: an acknowledgement is learnt only from an answer to the report.
-/

namespace LaunchSupervisor

open Bus (Call Connection Frame Message MessageState Scripted)

namespace Session

/-- Whether a report would be accepted now: the caller can be addressed and the connection does not
refuse. -/
def canReport (session : Session Scripted) : Bool :=
  !Text.allBlank session.caller.procid.toList &&
    (session.connection.refusal session.connection.sends).isNone

/-! ### A session before its report -/

/-- Whether no report was made in a session, nor is one's answer awaited. -/
def Unreported (session : Session Scripted) : Prop :=
  session.doneSent = false ∧ ∀ id, session.pending.lookup id ≠ some .done

theorem unreported_start (connection : Scripted) (caller : Caller) :
    Unreported (start connection caller) :=
  ⟨rfl, fun id awaited => by cases awaited⟩

theorem Quiet.unreported {before after : Session Scripted} (quiet : Quiet before after)
    (fresh : Unreported before) : Unreported after :=
  ⟨quiet.doneSent.trans fresh.1, fun id awaited => fresh.2 id (quiet.awaited id awaited)⟩

/-! ### The answer to the report -/

/-- **The report is acknowledged**: the next thing that a held session takes in says that the
request `id`, which is its report, was handled. -/
def Acknowledged (session : Session Scripted) (id : UInt64) : Prop :=
  session.attached ∧ session.pending.lookup id = some .done ∧
    ∃ status rest, session.connection.inbox = .ok (some (.reply id .handled status)) :: rest

theorem onReply_doneReplied {session : Session Scripted} {id : UInt64} {state : MessageState}
    (learnt : (session.onReply id state).1 = some .doneReplied) :
    session.pending.lookup id = some .done ∧ state = .handled := by
  unfold onReply at learnt
  split at learnt
  · cases learnt
  · rename_i request found
    cases request <;> cases state <;> simp_all

theorem onReply_doneFailed {session : Session Scripted} {id : UInt64} {state : MessageState}
    (learnt : (session.onReply id state).1 = some .doneFailed) :
    (session.onReply id state).2.attached = false := by
  unfold onReply at learnt ⊢
  split at learnt
  · cases learnt
  · rename_i request found
    cases request <;> cases state <;> simp_all

/-- What is learnt, except of a loss, is learnt from a reply. -/
theorem onTaken_learnt {session : Session Scripted} {taken : Bus.Taken} {event : SessionEvent}
    (learnt : (session.onTaken taken).2.1 = some event) (told : event ≠ .detached) :
    ∃ id state status, taken = .ok (some (.reply id state status)) ∧
      (session.onReply id state).1 = some event ∧
      (session.onTaken taken).2.2 = (session.onReply id state).2 := by
  unfold onTaken at learnt ⊢
  split at learnt
  · cases learnt
  · rename_i frame
    cases frame with
    | reply id state status => exact ⟨id, state, status, rfl, learnt, rfl⟩
    | message message => cases learnt
    | openRequest => cases learnt
    | opened procid joined => cases learnt
    | join joined => cases learnt
    | quit left => cases learnt
  · cases learnt
  · cases learnt
    exact absurd rfl told

theorem receiveNext_doneReplied {session : Session Scripted}
    (learnt : session.receiveNext.2.1 = some .doneReplied) : ∃ id, session.Acknowledged id := by
  unfold receiveNext at learnt
  split at learnt
  · rename_i held
    obtain ⟨id, state, status, taken, told, -⟩ := onTaken_learnt learnt (by decide)
    obtain ⟨awaited, rfl⟩ := onReply_doneReplied told
    refine ⟨id, held, awaited, status, ?_⟩
    replace taken : session.connection.take.1 = .ok (some (.reply id .handled status)) := taken
    unfold Scripted.take at taken
    split at taken
    · cases taken
    · rename_i head rest inbox
      exact ⟨rest, inbox.trans (by rw [show head = _ from taken])⟩
  · cases learnt

theorem receiveNext_doneFailed {session : Session Scripted}
    (learnt : session.receiveNext.2.1 = some .doneFailed) :
    session.receiveNext.2.2.attached = false := by
  unfold receiveNext at learnt ⊢
  split at learnt
  · rename_i held
    obtain ⟨id, state, status, taken, told, same⟩ := onTaken_learnt learnt (by decide)
    rw [if_pos held]
    exact (congrArg attached same).trans (onReply_doneFailed told)
  · cases learnt

/-! ### Making the report -/

theorem reportDone_again {session : Session Scripted} (sent : session.doneSent)
    (status : ChildStatus) : session.reportDone status = session := by
  unfold reportDone
  rw [if_pos sent]

theorem reportDone_detached {session : Session Scripted} (unsent : session.doneSent = false)
    (gone : session.attached = false) (status : ChildStatus) :
    session.reportDone status = { session with doneSent := true } := by
  simp [reportDone, request, unsent, gone]

/-- The first report of a held session, with its message built or not. -/
theorem reportDone_first {session : Session Scripted} (unsent : session.doneSent = false)
    (held : session.attached) (status : ChildStatus) :
    session.reportDone status =
      match Message.build session.nextId .request (some session.caller.procid) doneOperation
        (session.callerArguments ++ [.int status.code]) with
      | .error _ => detach { session with nextId := session.nextId + 1, doneSent := true }
      | .ok message =>
        match session.connection.send (.message { message with state := .sent }) with
        | (.ok (), connection) =>
          { session with
            connection, nextId := session.nextId + 1, doneSent := true
            pending := (message.id, .done) :: session.pending }
        | (.error _, connection) =>
          detach { session with connection, nextId := session.nextId + 1, doneSent := true } := by
  unfold reportDone request create
  simp only [unsent, Bool.false_eq_true, if_false, held, if_true, operation]
  cases Message.build session.nextId .request (some session.caller.procid) doneOperation
      (session.callerArguments ++ [.int status.code]) with
  | error fault => rfl
  | ok message =>
    cases sending : session.connection.send (.message { message with state := .sent }) with
    | mk outcome connection => cases outcome <;> simp [send, Connection.send, sending]

/-- The message of a report can be made exactly if the caller can be addressed. -/
theorem build_report (id : UInt64) (procid : String) (arguments : List Bus.Argument) :
    (Message.build id .request (some procid) doneOperation arguments).isOk =
      !Text.allBlank procid.toList := by
  have named : Text.allBlank doneOperation.toList = false := by decide
  unfold Message.build
  rw [named]
  cases blank : Text.allBlank procid.toList <;> simp [blank, Except.isOk, Except.toBool]

/-- **A report that can be made** is accepted, and its answer is awaited. -/
theorem reportDone_heard {session : Session Scripted} (unsent : session.doneSent = false)
    (held : session.attached) (can : session.canReport) (status : ChildStatus) :
    ∃ message : Message, message.operation = doneOperation ∧
      (session.reportDone status).connection.calls =
        session.connection.calls ++ [.send (.message message) true] ∧
      (session.reportDone status).attached ∧ (session.reportDone status).doneSent ∧
      (session.reportDone status).pending = (message.id, .done) :: session.pending := by
  simp only [canReport, Bool.and_eq_true, Option.isNone_iff_eq_none] at can
  obtain ⟨addressed, accepted⟩ := can
  have buildable := build_report session.nextId session.caller.procid
    (session.callerArguments ++ [.int status.code])
  rw [addressed] at buildable
  rw [reportDone_first unsent held]
  cases built : Message.build session.nextId .request (some session.caller.procid) doneOperation
      (session.callerArguments ++ [.int status.code]) with
  | error fault => simp [built, Except.isOk, Except.toBool] at buildable
  | ok message =>
    refine ⟨{ message with state := .sent }, (Message.build_operation built).1, ?_⟩
    simp [Scripted.send, accepted, held]

/-- **A report that cannot be made** ends the session. -/
theorem reportDone_unheard {session : Session Scripted} (unsent : session.doneSent = false)
    (held : session.attached) (cannot : session.canReport = false) (status : ChildStatus) :
    (session.reportDone status).attached = false ∧ (session.reportDone status).doneSent ∧
      (session.reportDone status).pending = [] ∧
      ∃ more, (session.reportDone status).connection.calls = session.connection.calls ++ more ∧
        ¬ Heard more := by
  have buildable := build_report session.nextId session.caller.procid
    (session.callerArguments ++ [.int status.code])
  rw [reportDone_first unsent held]
  cases built : Message.build session.nextId .request (some session.caller.procid) doneOperation
      (session.callerArguments ++ [.int status.code]) with
  | error fault => simp [detach, held, Connection.close, Scripted.close, Heard]
  | ok message =>
    have addressed : (!Text.allBlank session.caller.procid.toList) = true := by
      rw [← buildable, built]; rfl
    rw [canReport, addressed, Bool.true_and, Option.isNone_eq_false_iff] at cannot
    obtain ⟨fault, refused⟩ := Option.isSome_iff_exists.mp cannot
    simp [Scripted.send, refused, detach, held, Connection.close, Scripted.close, Heard]

/-! ### What becomes of a session -/

/-- The reports that a session has made since it was `first`. -/
def reportsSince (first session : Session Scripted) : List (Message × Bool) :=
  reports (session.connection.calls.drop first.connection.calls.length)

/-- **What holds between a session and all that later becomes of it**: the report is made at most
once, with the session held only as long as it was accepted, and its answer alone is awaited. -/
structure Since (first session : Session Scripted) : Prop where
  grown : ∃ more, session.connection.calls = first.connection.calls ++ more
  silent : first.doneSent → session.doneSent ∧ reportsSince first session = []
  unsent : session.doneSent = false → reportsSince first session = []
  told : first.doneSent = false → session.doneSent → session.attached →
    ∃ message, reportsSince first session = [(message, true)]
  awaited : Unreported first → ∀ id, session.pending.lookup id = some .done →
    ∃ message, reportsSince first session = [(message, true)] ∧ message.id = id

theorem reportsSince_self (session : Session Scripted) : reportsSince session session = [] := by
  simp [reportsSince, reports]

theorem Since.refl (session : Session Scripted) : Since session session :=
  ⟨⟨[], by simp⟩, fun sent => ⟨sent, reportsSince_self session⟩,
    fun _ => reportsSince_self session,
    fun unsent sent => absurd sent (by simp [unsent]), fun fresh id awaited =>
      absurd awaited (fresh.2 id)⟩

/-- Calls that are added bring their reports. -/
theorem Since.reportsSince_append {first session next : Session Scripted}
    (since : Since first session) {more : List Call}
    (calls : next.connection.calls = session.connection.calls ++ more) :
    reportsSince first next = reportsSince first session ++ reports more := by
  obtain ⟨earlier, grown⟩ := since.grown
  simp [reportsSince, calls, grown, reports_append]

theorem Since.quiet {first session next : Session Scripted} (since : Since first session)
    (quiet : Quiet session next) : Since first next := by
  obtain ⟨more, calls, nothing⟩ := quiet.calls
  have same : reportsSince first next = reportsSince first session := by
    rw [since.reportsSince_append calls, nothing, List.append_nil]
  obtain ⟨earlier, grown⟩ := since.grown
  refine ⟨⟨earlier ++ more, by rw [calls, grown, List.append_assoc]⟩, ?_, ?_, ?_, ?_⟩
  · rw [same, quiet.doneSent]
    exact since.silent
  · rw [same, quiet.doneSent]
    exact since.unsent
  · rw [same, quiet.doneSent]
    exact fun fresh sent held => since.told fresh sent (quiet.attached held)
  · rw [same]
    exact fun fresh id awaited => since.awaited fresh id (quiet.awaited id awaited)

theorem Since.reportDone {first session : Session Scripted} (since : Since first session)
    (status : ChildStatus) : Since first (session.reportDone status) := by
  -- The four outcomes: tried before, nobody to tell, accepted, and not accepted.
  cases sent : session.doneSent with
  | true => rwa [reportDone_again sent]
  | false =>
    have started : ¬ first.doneSent := fun already => by simp [(since.silent already).1] at sent
    have nothing := since.unsent sent
    obtain ⟨earlier, grown⟩ := since.grown
    cases held : session.attached with
    | false =>
      rw [reportDone_detached sent held]
      refine ⟨since.grown, fun already => absurd already started, fun unsent => ?_,
        fun _ _ attached => ?_, since.awaited⟩
      · cases unsent
      · simp [held] at attached
    | true =>
      cases can : session.canReport with
      | true =>
        obtain ⟨message, isReport, calls, -, reported, pending⟩ :=
          reportDone_heard sent held can status
        have made : reportsSince first (session.reportDone status) = [(message, true)] := by
          rw [since.reportsSince_append calls, nothing]
          simp [reports, report?, isReport]
        refine ⟨⟨_, by rw [calls, grown, List.append_assoc]⟩,
          fun already => absurd already started, fun unsent => ?_, fun _ _ _ => ⟨message, made⟩,
          fun fresh id awaited => ⟨message, made, ?_⟩⟩
        · simp [reported] at unsent
        · rw [pending, List.lookup_cons] at awaited
          by_cases same : id = message.id
          · exact same.symm
          · have other : (id == message.id) = false := beq_eq_false_iff_ne.mpr same
            rw [other] at awaited
            obtain ⟨_, early, -⟩ := since.awaited fresh id awaited
            simp [nothing] at early
      | false =>
        obtain ⟨gone, reported, pending, more, calls, -⟩ :=
          reportDone_unheard sent held can status
        refine ⟨⟨_, by rw [calls, grown, List.append_assoc]⟩,
          fun already => absurd already started,
          fun unsent => ?_, fun _ _ attached => ?_, fun _ id awaited => ?_⟩
        · simp [reported] at unsent
        · simp [gone] at attached
        · simp [pending] at awaited

/-- **The report is not made again**: once it was tried, nothing is added to the reports. -/
theorem Since.settled {first session later : Session Scripted} (since : Since first session)
    (after : Since session later) (sent : session.doneSent) :
    reportsSince first later = reportsSince first session := by
  obtain ⟨more, grown⟩ := after.grown
  have nothing := (after.silent sent).2
  rw [reportsSince, grown, List.drop_left] at nothing
  rw [since.reportsSince_append grown, nothing, List.append_nil]

/-- What one action makes of a session: a report, or something that makes none. -/
def Change (before after : Session Scripted) : Prop :=
  Quiet before after ∨ ∃ status, after = before.reportDone status

theorem Since.change {first session next : Session Scripted} (since : Since first session)
    (change : Change session next) : Since first next := by
  rcases change with quiet | ⟨status, rfl⟩
  · exact since.quiet quiet
  · exact since.reportDone status

/-- A session that was given up is not taken up again. -/
theorem Change.attached {before after : Session Scripted} (change : Change before after)
    (held : after.attached) : before.attached := by
  rcases change with quiet | ⟨status, rfl⟩
  · exact quiet.attached held
  · cases sent : before.doneSent with
    | true => rwa [reportDone_again sent] at held
    | false =>
      cases gone : before.attached with
      | false => simp [reportDone_detached sent gone, gone] at held
      | true => rfl

theorem doneSent_reportDone (session : Session Scripted) (status : ChildStatus) :
    (session.reportDone status).doneSent := by
  cases sent : session.doneSent with
  | true => rwa [reportDone_again sent]
  | false =>
    cases held : session.attached with
    | false => rw [reportDone_detached sent held]
    | true =>
      cases can : session.canReport with
      | true =>
        obtain ⟨-, -, -, -, tried, -⟩ := reportDone_heard sent held can status
        exact tried
      | false => exact (reportDone_unheard sent held can status).2.1

/-- Whether a report was accepted in a session since it was `first`. -/
def HeardSince (first session : Session Scripted) : Prop :=
  Heard (session.connection.calls.drop first.connection.calls.length)

/-- **Whether a report would go unheard**: one was tried before all this, or none was tried yet and
none can be made. -/
def Muted (first session : Session Scripted) : Prop :=
  first.doneSent ∨ session.doneSent = false ∧ session.canReport = false

theorem heardSince_iff (first session : Session Scripted) :
    HeardSince first session ↔ ∃ message, (message, true) ∈ reportsSince first session :=
  heard_iff _

/-- **A held session tells of the end, unless it is muted.** -/
theorem heardSince_reportDone_iff {first session : Session Scripted} (since : Since first session)
    (held : session.attached) (status : ChildStatus) :
    HeardSince first (session.reportDone status) ↔ ¬ Muted first session := by
  rw [heardSince_iff]
  unfold Muted
  cases already : first.doneSent with
  | true => simp [((since.reportDone status).silent already).2]
  | false =>
    cases sent : session.doneSent with
    | true =>
      obtain ⟨message, made⟩ := since.told already sent held
      rw [reportDone_again sent]
      simp [made]
    | false =>
      have nothing := since.unsent sent
      cases can : session.canReport with
      | true =>
        obtain ⟨message, isReport, calls, -⟩ := reportDone_heard sent held can status
        rw [since.reportsSince_append calls, nothing]
        simp [reports, report?, isReport]
      | false =>
        obtain ⟨-, -, -, more, calls, unheard⟩ := reportDone_unheard sent held can status
        rw [heard_iff] at unheard
        rw [since.reportsSince_append calls, nothing]
        simpa using unheard

end Session

end LaunchSupervisor
