import LaunchSupervisor.Proofs.Session.Trace

/-!
**The conversation of a session.** After its introduction a supervisor takes what comes and answers
it, and speaks on its own account twice at most: it gives the notice and makes the report, in either
order. The ids of its messages grow.

* `Introduced.conversation`: the form of all the calls, from the introduction to the close.
* `Talk`: all that is said after the introduction; `Talk.report`, `Talk.tell`, `Talk.receiveNext`
  and `Talk.still` are the steps.
-/

namespace LaunchSupervisor

open Bus (Call Connection Frame Message MessageKind MessageState Scripted)

namespace Session

/-! ### What is said after the introduction -/

/-- **All that is said in a session after it was introduced**: things are taken and those that wait
for an answer get one; the notice and the report are each sent at most once; and the ids of one's
own messages grow. -/
structure Talk (first : Session Scripted) (taken : List Bus.Taken) (noticed : Bool)
    (body : List Call) (session : Session Scripted) : Prop where
  adds : Adds first session body
  routine : ∀ call ∈ body, Routine call
  received : taken.length ≤ body.count .take
  answers : body.filterMap answer? = taken.filterMap due?
  notices : body.countP (sends .notice iconCacheOperation) ≤ noticed.toNat
  reports : body.countP (sends .request doneOperation) ≤ session.doneSent.toNat
  ids : (body.filterMap message?).Pairwise fun one other => one.id < other.id
  since : ∀ message ∈ body.filterMap message?, first.nextId ≤ message.id
  before : ∀ message ∈ body.filterMap message?, message.id < session.nextId
  begun : first.nextId ≤ session.nextId
  few : session.nextId.toNat ≤ 2 + noticed.toNat + session.doneSent.toNat

theorem talk_start {first : Session Scripted} (few : first.nextId.toNat ≤ 2) (noticed : Bool) :
    Talk first [] noticed [] first where
  adds := adds_nothing rfl rfl
  routine := by simp
  received := Nat.zero_le _
  answers := rfl
  notices := Nat.zero_le _
  reports := Nat.zero_le _
  ids := .nil
  since := by simp
  before := by simp
  begun := UInt64.le_refl _
  few := by omega

/-- Nothing is said on one's own account in this. -/
theorem Talk.listen {first session next : Session Scripted} {taken items : List Bus.Taken}
    {noticed : Bool} {body more : List Call} (talk : Talk first taken noticed body session)
    (adds : Adds session next more) (routine : ∀ call ∈ more, Routine call)
    (received : items.length ≤ more.count .take)
    (answers : more.filterMap answer? = items.filterMap due?)
    (silent : more.filterMap message? = []) (nextId : next.nextId = session.nextId)
    (doneSent : next.doneSent = session.doneSent) :
    Talk first (taken ++ items) noticed (body ++ more) next := by
  have unsaid (kind : MessageKind) (operation : String) :
      more.countP (sends kind operation) = 0 := by
    rw [List.countP_eq_zero]
    intro call made said
    have mute := List.filterMap_eq_nil_iff.mp silent call made
    simp [sends, mute] at said
  refine ⟨talk.adds.trans adds, ?_, ?_, ?_, ?_, ?_, ?_, ?_, ?_, ?_, ?_⟩
  · intro call made
    rcases List.mem_append.mp made with earlier | later
    · exact talk.routine call earlier
    · exact routine call later
  · have := talk.received
    rw [List.length_append, List.count_append]
    omega
  · rw [List.filterMap_append, List.filterMap_append, talk.answers, answers]
  · rw [List.countP_append, unsaid]
    exact talk.notices
  · rw [List.countP_append, unsaid, doneSent]
    exact talk.reports
  · rw [List.filterMap_append, silent, List.append_nil]
    exact talk.ids
  · rw [List.filterMap_append, silent, List.append_nil]
    exact talk.since
  · rw [List.filterMap_append, silent, List.append_nil, nextId]
    exact talk.before
  · rw [nextId]
    exact talk.begun
  · rw [nextId, doneSent]
    exact talk.few

/-- **What is said for the first time**, the notice or the report: how it changes whether the one
and the other were said. -/
inductive First (kind : MessageKind) (operation : String) (noticed reported : Bool) :
    Bool → Bool → Prop where
  | notice (isNotice : kind = .notice) (tellsIcons : operation = iconCacheOperation)
    (unnoticed : noticed = false) : First kind operation noticed reported true reported
  | report (isRequest : kind = .request) (isReport : operation = doneOperation)
    (unsent : reported = false) : First kind operation noticed reported noticed true

section

variable {kind : MessageKind} {operation : String}
  {noticed reported noticedNext reportedNext : Bool}

theorem First.flags (once : First kind operation noticed reported noticedNext reportedNext) :
    noticedNext.toNat + reportedNext.toNat = noticed.toNat + reported.toNat + 1 ∧
      noticed.toNat ≤ noticedNext.toNat ∧ reported.toNat ≤ reportedNext.toNat := by
  cases once with
  | notice _ _ unnoticed => simp [unnoticed, Nat.add_comm]
  | report _ _ unsent => simp [unsent]

/-- The message is counted as what it is. -/
theorem First.counted (once : First kind operation noticed reported noticedNext reportedNext)
    {message : Message} (isKind : message.kind = kind) (isOperation : message.operation = operation)
    (accepted : Bool) :
    Routine (.send (.message message) accepted) ∧
      noticed.toNat + [.send (.message message) accepted].countP
        (sends .notice iconCacheOperation) ≤ noticedNext.toNat ∧
      reported.toNat + [.send (.message message) accepted].countP
        (sends .request doneOperation) ≤ reportedNext.toNat := by
  cases once with
  | notice isNotice tellsIcons unnoticed =>
    rw [isNotice] at isKind
    refine ⟨.notice isKind (isOperation.trans tellsIcons) accepted, ?_, ?_⟩
    · rw [unnoticed]
      exact Nat.le_trans (Nat.add_le_add_left List.countP_le_length _) (Nat.le_refl _)
    · simp [sends, message?, isKind]
  | report isRequest isReport unsent =>
    rw [isRequest] at isKind
    refine ⟨.report isKind (isOperation.trans isReport) accepted, ?_, ?_⟩
    · simp [sends, message?, isKind]
    · rw [unsent]
      exact Nat.le_trans (Nat.add_le_add_left List.countP_le_length _) (Nat.le_refl _)

end

/-- Something is said on one's own account. -/
theorem Talk.say {first session next : Session Scripted} {taken : List Bus.Taken}
    {noticed noticedNext : Bool} {body more : List Call} {kind : MessageKind} {operation : String}
    {arguments : List Bus.Argument} (talk : Talk first taken noticed body session)
    (adds : Adds session next more)
    (said : Said session.nextId next kind operation arguments more)
    (once : First kind operation noticed session.doneSent noticedNext next.doneSent) :
    Talk first taken noticedNext (body ++ more) next := by
  have few := talk.few
  obtain ⟨flags, noticedLess, reportedLess⟩ := once.flags
  have bounded (flag : Bool) : flag.toNat ≤ 1 := Bool.toNat_le flag
  -- At most four ids are used, so the next one is greater than all before it.
  have grown : next.nextId.toNat = session.nextId.toNat + 1 := by
    have one := bounded noticed
    have other := bounded session.doneSent
    have moved : next.nextId = session.nextId + 1 := by cases said <;> assumption
    rw [moved, UInt64.toNat_add]
    simp only [UInt64.reduceToNat]
    omega
  have less : session.nextId < next.nextId := by
    rw [UInt64.lt_iff_toNat_lt]
    omega
  have begun : first.nextId ≤ next.nextId :=
    UInt64.le_of_lt (UInt64.lt_of_le_of_lt talk.begun less)
  have enough : next.nextId.toNat ≤ 2 + noticedNext.toNat + next.doneSent.toNat := by omega
  have before : ∀ message ∈ body.filterMap message?, message.id < next.nextId :=
    fun message listed => UInt64.lt_trans (talk.before message listed) less
  have adds := talk.adds.trans adds
  cases said with
  | unmade gone nextId =>
    rw [List.append_nil] at adds ⊢
    exact ⟨adds, talk.routine, talk.received, talk.answers, Nat.le_trans talk.notices noticedLess,
      Nat.le_trans talk.reports reportedLess, talk.ids, talk.since, before, begun, enough⟩
  | @message message own isKind isOperation carries nextId accepted =>
    obtain ⟨routine, notice, report⟩ := once.counted isKind isOperation accepted
    have messages : (body ++ [Call.send (.message message) accepted]).filterMap message? =
        body.filterMap message? ++ [message] :=
      List.filterMap_append
    refine ⟨adds, ?_, ?_, ?_, ?_, ?_, ?_, ?_, ?_, begun, enough⟩
    · intro call made
      rcases List.mem_append.mp made with earlier | now
      · exact talk.routine call earlier
      · rw [List.mem_singleton.mp now]
        exact routine
    · rw [List.count_append]
      exact Nat.le_add_right_of_le talk.received
    · rw [List.filterMap_append, talk.answers]
      exact List.append_nil _
    · rw [List.countP_append]
      exact Nat.le_trans (Nat.add_le_add_right talk.notices _) notice
    · rw [List.countP_append]
      exact Nat.le_trans (Nat.add_le_add_right talk.reports _) report
    · rw [messages, List.pairwise_append]
      refine ⟨talk.ids, List.pairwise_singleton _ _, fun earlier listed last now => ?_⟩
      rw [List.mem_singleton.mp now, own]
      exact talk.before earlier listed
    · intro said listed
      rw [messages] at listed
      rcases List.mem_append.mp listed with earlier | now
      · exact talk.since said earlier
      · rw [List.mem_singleton.mp now, own]
        exact talk.begun
    · intro said listed
      rw [messages] at listed
      rcases List.mem_append.mp listed with earlier | now
      · exact before said earlier
      · rw [List.mem_singleton.mp now, own]
        exact less

/-! ### One more use of the session -/

section

variable {first session : Session Scripted} {taken : List Bus.Taken} {noticed : Bool}
  {body : List Call}

/-- A change in which nothing is asked of the connection but the close. -/
theorem Talk.still (talk : Talk first taken noticed body session) {next : Session Scripted}
    (adds : Adds session next []) (nextId : next.nextId = session.nextId)
    (doneSent : session.doneSent → next.doneSent) : Talk first taken noticed body next := by
  have less : session.doneSent.toNat ≤ next.doneSent.toNat := by
    cases sent : session.doneSent with
    | false => exact Nat.zero_le _
    | true => exact Nat.le_of_eq (congrArg Bool.toNat (doneSent sent).symm)
  have adds := talk.adds.trans adds
  rw [List.append_nil] at adds
  have few := talk.few
  refine ⟨adds, talk.routine, talk.received, talk.answers, talk.notices,
    Nat.le_trans talk.reports less, talk.ids, talk.since, ?_, ?_, ?_⟩
  · rw [nextId]
    exact talk.before
  · rw [nextId]
    exact talk.begun
  · rw [nextId]
    omega

/-- The time of the notice has passed, with or without one. -/
theorem Talk.marked (talk : Talk first taken noticed body session) :
    Talk first taken true body session := by
  have less : noticed.toNat ≤ true.toNat := Bool.toNat_le noticed
  refine { talk with notices := Nat.le_trans talk.notices less, few := ?_ }
  exact Nat.le_trans talk.few (Nat.add_le_add_right (Nat.add_le_add_left less 2) _)

/-- The answer that is sent to something taken. -/
theorem answers_of_due (item : Bus.Taken) (accepted : Bool) :
    let sent := (due? item).toList.map fun frame => Call.send frame accepted
    (∀ call ∈ sent, Routine call) ∧ sent.filterMap answer? = (due? item).toList ∧
      sent.filterMap message? = [] := by
  unfold due?
  split
  · split
    · refine ⟨fun call made => ?_, rfl, rfl⟩
      rw [List.mem_singleton.mp made]
      exact .answer _ _ _ accepted
    · exact ⟨by simp, rfl, rfl⟩
  · exact ⟨by simp, rfl, rfl⟩

/-- The next thing is taken. -/
theorem Talk.receiveNext (talk : Talk first taken noticed body session)
    (held : session.attached) :
    ∃ more, Talk first (taken ++ session.connection.inbox.take 1) noticed (body ++ more)
        session.receiveNext.2.2 ∧ more.filterMap message? = [] := by
  obtain ⟨accepted, adds⟩ := adds_receiveNext held
  obtain ⟨routine, answers, silent⟩ :=
    answers_of_due (session.connection.inbox.headD (.ok none)) accepted
  have due : (due? (session.connection.inbox.headD (.ok none))).toList =
      (session.connection.inbox.take 1).filterMap due? := by
    cases session.connection.inbox with
    | nil => rfl
    | cons item rest => cases answer : due? item <;> simp [answer]
  refine ⟨_, talk.listen adds ?_ ?_ ?_ silent (nextId_receiveNext session)
    (quiet_receiveNext session).doneSent, silent⟩
  · intro call made
    rcases List.mem_cons.mp made with rfl | sent
    · exact .take
    · exact routine call sent
  · rw [List.count_cons_self]
    exact Nat.le_trans (List.length_take_le 1 _) (Nat.le_add_left 1 _)
  · exact answers.trans due

/-- The notice is given. -/
theorem Talk.tell (talk : Talk first taken false body session) (held : session.attached)
    (action children : String) :
    ∃ more, Talk first taken true (body ++ more) (session.tellIconCache action children).2 ∧
      ∀ message ∈ more.filterMap message?, message.operation = iconCacheOperation := by
  obtain ⟨same, -, more, adds, said⟩ := adds_tellIconCache held action children
  refine ⟨more, talk.say adds said (same ▸ .notice rfl rfl rfl), fun message listed => ?_⟩
  cases said with
  | unmade gone next => cases listed
  | message own isKind isOperation carries next accepted =>
    rw [List.mem_singleton.mp listed]
    exact isOperation

/-- A report is made, or was made before, or nobody is there to be told. -/
theorem Talk.report (talk : Talk first taken noticed body session) (status : ChildStatus) :
    ∃ more, Talk first taken noticed (body ++ more) (session.reportDone status) ∧
      ∀ message ∈ more.filterMap message?,
        message.arguments = session.callerArguments ++ [.int status.code] := by
  obtain ⟨sent, -, more, adds, ⟨rfl, nextId⟩ | ⟨unsent, said⟩⟩ :=
    adds_reportDone session status
  · refine ⟨[], ?_, by simp⟩
    rw [List.append_nil]
    exact talk.still adds nextId fun _ => sent
  · refine ⟨more, talk.say adds said ?_, fun message listed => ?_⟩
    · rw [sent, unsent]
      exact .report rfl rfl rfl
    · cases said with
      | unmade gone next => cases listed
      | message own isKind isOperation carries next accepted =>
        rw [List.mem_singleton.mp listed]
        exact carries

end

/-! ### The whole conversation -/

/-- **The calls of a session, from the introduction to the close**: the supervisor joins, says who
it is, and then only takes what comes, answers it, and sends the notice and the report once at most;
the close is made exactly if the session was given up, and is the last call. -/
structure Conversation (connection : Scripted) (taken : List Bus.Taken) (joined : Bool)
    (identified body : List Call) (session : Session Scripted) : Prop where
  calls : session.connection.calls = connection.calls ++
    .send (.join connection.session) joined ::
      (identified ++ body ++ if session.attached then [] else [.close])
  introduction : identified = [] ∧ body = [] ∨ ∃ message accepted,
    identified = [.send (.message message) accepted] ∧ message.kind = .request ∧
      message.operation = identifyOperation
  routine : ∀ call ∈ body, Routine call
  received : taken.length ≤ body.count .take
  /-- Each message that was taken and waits for an answer gets one, and nothing else does. -/
  answers : body.filterMap answer? = taken.filterMap due?
  notices : body.countP (sends .notice iconCacheOperation) ≤ 1
  reports : body.countP (sends .request doneOperation) ≤ 1
  /-- The ids of one's own messages grow. -/
  ids : ((identified ++ body).filterMap message?).Pairwise fun one other => one.id < other.id

theorem Introduced.conversation {connection : Scripted} {caller : Caller}
    {first session : Session Scripted} {joined : Bool} {identified body : List Call}
    {taken : List Bus.Taken} {noticed : Bool}
    (introduced : Introduced connection caller first joined identified)
    (talk : Talk first taken noticed body session) :
    Conversation connection taken joined identified body session := by
  have whole := introduced.adds.trans talk.adds
  refine ⟨?_, ?_, talk.routine, talk.received, talk.answers,
    Nat.le_trans talk.notices (Bool.toNat_le _), Nat.le_trans talk.reports (Bool.toNat_le _), ?_⟩
  · rw [whole.calls]
    cases attached : session.attached <;> simp [closing, start, attached]
  · rcases introduced.identified with ⟨unsaid, gone⟩ |
      ⟨message, accepted, said, kind, operation, -⟩
    · exact Or.inl ⟨unsaid, (talk.adds.gone gone).2⟩
    · exact Or.inr ⟨message, accepted, said, kind, operation⟩
  · rcases introduced.identified with ⟨rfl, -⟩ | ⟨message, accepted, rfl, -, -, early⟩
    · exact talk.ids
    · refine List.pairwise_cons.mpr ⟨fun later listed => ?_, talk.ids⟩
      exact UInt64.lt_of_lt_of_le early (talk.since later listed)

end Session

end LaunchSupervisor
