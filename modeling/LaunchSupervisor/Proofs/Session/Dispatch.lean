import LaunchSupervisor.Proofs.Session.Trace

/-!
**What a session answers.** A session that listens takes what has arrived, pass after pass, and
answers the live requests that name their handler, each once and in the order in which they came. A
request that names nobody is let go, as a notice is. Whether an answer goes out makes no difference
to anything that is received.

* `answers_receive`, `answers_listen`: what is sent is what is due to what is taken.
* `taken_listen`, `inbox_listen`: what is taken, and that nothing is left behind.
* `Alike`, `Alike.listen`: what the bus refuses does not matter.
* `live_requests_answered`: all of this at once.
-/

namespace LaunchSupervisor

open Bus (Call Connection Frame Message Scripted)

namespace Session

/-- The frame that a call hands to the connection. -/
def frame? : Call → Option Frame
  | .send frame _ => some frame
  | .take => none
  | .close => none

/-- A session for which some things have arrived. -/
def offered (session : Session Scripted) (items : List Bus.Taken) : Session Scripted :=
  { session with connection := session.connection.arrive items }

/-- A session that listens: some things arrive before each pass over the bus. What is taken from
the bus, and the session after that. -/
def listen (session : Session Scripted) :
    List (List Bus.Taken) → List Bus.Taken × Session Scripted
  | [] => ([], session)
  | items :: later =>
    let next := (session.offered items).receive.2
    (takenBetween (session.offered items) next ++ (next.listen later).1, (next.listen later).2)

/-! ### What is sent -/

/-- What a session sends from one state to another is what is due to some things. -/
def Answers (before after : Session Scripted) (taken : List Bus.Taken) : Prop :=
  ∃ more, after.connection.calls = before.connection.calls ++ more ∧
    more.filterMap frame? = taken.filterMap due?

theorem Answers.trans {first second third : Session Scripted} {some more : List Bus.Taken}
    (early : Answers first second some) (late : Answers second third more) :
    Answers first third (some ++ more) := by
  obtain ⟨calls, grown, sent⟩ := early
  obtain ⟨callsMore, grownMore, sentMore⟩ := late
  refine ⟨calls ++ callsMore, ?_, ?_⟩
  · rw [grownMore, grown, List.append_assoc]
  · rw [List.filterMap_append, List.filterMap_append, sent, sentMore]

theorem answers_next (session : Session Scripted) :
    Answers session session.receiveNext.2.2
      (takenBetween session session.receiveNext.2.2) := by
  cases held : session.attached with
  | false =>
    rw [receiveNext_gone held, takenBetween_eq [] rfl]
    exact ⟨[], (List.append_nil _).symm, rfl⟩
  | true =>
    obtain ⟨accepted, adds⟩ := adds_receiveNext held
    have first : takenBetween session session.receiveNext.2.2 = session.connection.inbox.take 1 :=
      takenBetween_eq _ (by rw [inbox_receiveNext held, ← List.drop_one, List.take_append_drop])
    have due : (session.connection.inbox.take 1).filterMap due? =
        (due? (session.connection.inbox.headD (.ok none))).toList := by
      cases session.connection.inbox with
      | nil => rfl
      | cons item rest => cases answer : due? item <;> simp [answer]
    refine ⟨_, (adds.calls.trans (List.append_assoc ..)), ?_⟩
    have closed : (closing session session.receiveNext.2.2).filterMap frame? = [] := by
      unfold closing
      split <;> rfl
    rw [first, due, List.filterMap_append, closed, List.append_nil]
    cases due? (session.connection.inbox.headD (.ok none)) <;> rfl

/-- **A pass over the bus sends what is due** to what is taken. -/
theorem answers_receive (session : Session Scripted) :
    Answers session session.receive.2 (takenBetween session session.receive.2) := by
  fun_induction Session.receive session with
  | case1 session event rest next =>
    have answers := answers_next session
    rwa [next] at answers
  | case2 session event rest next ih =>
    have answers := answers_next session
    have early := inbox_receiveNext_suffix session
    rw [next] at answers early
    rw [takenBetween_trans early (inbox_receive_suffix rest)]
    exact answers.trans ih

/-- **So does a session that listens.** -/
theorem answers_listen (session : Session Scripted) (passes : List (List Bus.Taken)) :
    Answers session (session.listen passes).2 (session.listen passes).1 := by
  induction passes generalizing session with
  | nil => exact ⟨[], (List.append_nil _).symm, rfl⟩
  | cons items later ih =>
    have pass : Answers session (session.offered items).receive.2
        (takenBetween (session.offered items) (session.offered items).receive.2) :=
      answers_receive (session.offered items)
    exact pass.trans (ih _)

/-! ### What is taken -/

/-- **What is taken is the front** of what was there and what arrives. -/
theorem taken_listen (session : Session Scripted) (passes : List (List Bus.Taken)) :
    session.connection.inbox ++ passes.flatten =
      (session.listen passes).1 ++ (session.listen passes).2.connection.inbox := by
  induction passes generalizing session with
  | nil => exact List.append_nil _
  | cons items later ih =>
    have pass := takenBetween_append (inbox_receive_suffix (session.offered items))
    have arrived : (session.offered items).connection.inbox = session.connection.inbox ++ items :=
      rfl
    rw [List.flatten_cons, ← List.append_assoc, ← arrived, ← pass, List.append_assoc,
      ih (session.offered items).receive.2, ← List.append_assoc]
    rfl

theorem attached_of_receive {session : Session Scripted} (still : session.receive.2.attached) :
    session.attached := by
  cases held : session.attached with
  | true => rfl
  | false =>
    rw [receive_detached held] at still
    exact absurd still (by simp [held])

theorem attached_of_listen {session : Session Scripted} {passes : List (List Bus.Taken)}
    (still : (session.listen passes).2.attached) : session.attached := by
  induction passes generalizing session with
  | nil => exact still
  | cons items later ih =>
    have offered : (session.offered items).attached := attached_of_receive (ih still)
    exact offered

theorem goesOn_onTaken {session : Session Scripted} {taken : Bus.Taken} (more : taken.goesOn) :
    (session.onTaken taken).1 = true := by
  cases taken with
  | ok frame =>
    cases frame with
    | none => cases more
    | some frame => rfl
  | error fault =>
    cases fault with
    | protocol reason => rfl
    | _ => cases more

/-- **A pass takes all that is there**, if nothing but frames and bad lines is there and the session
is still held after it. -/
theorem inbox_receive {session : Session Scripted} (still : session.receive.2.attached)
    (frames : ∀ item ∈ session.connection.inbox, item.goesOn) :
    session.receive.2.connection.inbox = [] := by
  have held := attached_of_receive still
  fun_induction Session.receive session with
  | case1 session event rest next =>
    have left := inbox_receiveNext held
    rw [next] at left
    cases inbox : session.connection.inbox with
    | nil => rw [left, inbox, List.tail_nil]
    | cons item later =>
      have more : session.receiveNext.1 = true := by
        rw [receiveNext_held held]
        refine goesOn_onTaken ?_
        rw [inbox, List.headD_cons]
        exact frames item (inbox ▸ List.mem_cons_self)
      rw [next] at more
      cases more
  | case2 session event rest next ih =>
    have left := inbox_receiveNext held
    rw [next] at left
    refine ih still (fun item within => frames item ?_) (attached_of_receive still)
    rw [left] at within
    exact List.mem_of_mem_tail within

/-- **Nothing is left behind**, if nothing but frames and bad lines arrives and the session is still
held in the end. -/
theorem inbox_listen {session : Session Scripted} {passes : List (List Bus.Taken)}
    (still : (session.listen passes).2.attached) (some : passes ≠ [])
    (frames : ∀ item ∈ session.connection.inbox ++ passes.flatten, item.goesOn) :
    (session.listen passes).2.connection.inbox = [] := by
  induction passes generalizing session with
  | nil => exact absurd rfl some
  | cons items later ih =>
    rw [List.flatten_cons, ← List.append_assoc] at frames
    have nothing : (session.offered items).receive.2.connection.inbox = [] :=
      inbox_receive (attached_of_listen still)
        fun item within => frames item (List.mem_append_left _ within)
    cases later with
    | nil => exact nothing
    | cons next passes =>
      refine ih still (List.cons_ne_nil _ _) fun item within => frames item ?_
      rw [nothing, List.nil_append] at within
      exact List.mem_append_right _ within

/-! ### What the bus refuses -/

/-- Two sessions that are alike in what their dispatch goes by: whether they are held, what they
wait for and what there is to be taken. What their connections refuse may differ. -/
structure Alike (one other : Session Scripted) : Prop where
  attached : one.attached = other.attached
  pending : one.pending = other.pending
  inbox : one.connection.inbox = other.connection.inbox

theorem Alike.detach {one other : Session Scripted} (alike : Alike one other) :
    Alike one.detach other.detach := by
  refine ⟨?_, ?_, ?_⟩
  · rw [attached_detach, attached_detach]
  · unfold Session.detach
    rw [alike.attached]
    split
    · rfl
    · exact alike.pending
  · rw [inbox_detach, inbox_detach]
    exact alike.inbox

theorem Alike.abandon {one other : Session Scripted} (alike : Alike one other)
    (message : Message) : Alike (one.abandon message) (other.abandon message) := by
  obtain ⟨connection, same, inbox⟩ := one.abandon_eq message
  obtain ⟨connectionOther, sameOther, inboxOther⟩ := other.abandon_eq message
  rw [same, sameOther]
  exact ⟨alike.attached, alike.pending, by rw [inbox, inboxOther]; exact alike.inbox⟩

theorem Alike.onReply {one other : Session Scripted} (alike : Alike one other) (id : UInt64)
    (state : Bus.MessageState) :
    (one.onReply id state).1 = (other.onReply id state).1 ∧
      Alike (one.onReply id state).2 (other.onReply id state).2 := by
  have settled : Alike
      { one with pending := one.pending.filter fun entry => entry.1 != id }
      { other with pending := other.pending.filter fun entry => entry.1 != id } :=
    ⟨alike.attached, by rw [alike.pending], alike.inbox⟩
  unfold Session.onReply
  rw [alike.pending]
  split
  · exact ⟨rfl, alike⟩
  · rename_i request _
    rw [alike.pending] at settled
    cases request <;> cases state <;> first
      | exact ⟨rfl, alike⟩
      | exact ⟨rfl, settled⟩
      | exact ⟨rfl, settled.detach⟩

/-- **What is taken comes to the same**, whatever the bus refuses. -/
theorem Alike.onTaken {one other : Session Scripted} (alike : Alike one other)
    (taken : Bus.Taken) :
    (one.onTaken taken).1 = (other.onTaken taken).1 ∧
      Alike (one.onTaken taken).2.2 (other.onTaken taken).2.2 := by
  unfold Session.onTaken
  split
  · exact ⟨rfl, alike⟩
  · rename_i frame
    refine ⟨rfl, ?_⟩
    cases frame with
    | reply id state status => exact (alike.onReply id state).2
    | message message => exact alike.abandon message
    | openRequest | opened procid joined | join joined | quit left => exact alike
  · exact ⟨rfl, alike⟩
  · exact ⟨rfl, alike.detach⟩

theorem Alike.receiveNext {one other : Session Scripted} (alike : Alike one other) :
    one.receiveNext.1 = other.receiveNext.1 ∧
      Alike one.receiveNext.2.2 other.receiveNext.2.2 := by
  cases held : other.attached with
  | false =>
    rw [receiveNext_gone held, receiveNext_gone (alike.attached.trans held)]
    exact ⟨rfl, alike⟩
  | true =>
    have asked : Alike
        { one with connection := one.connection.took }
        { other with connection := other.connection.took } :=
      ⟨alike.attached, alike.pending, congrArg List.tail alike.inbox⟩
    rw [receiveNext_held held, receiveNext_held (alike.attached.trans held), alike.inbox]
    exact asked.onTaken _

theorem Alike.receive {one other : Session Scripted} (alike : Alike one other) :
    Alike one.receive.2 other.receive.2 := by
  fun_induction Session.receive one generalizing other with
  | case1 one event rest next =>
    obtain ⟨stops, after⟩ := alike.receiveNext
    rw [next] at stops after
    rw [@Session.receive.eq_def _ _ other]
    split
    · rename_i nextOther
      rwa [nextOther] at after
    · rename_i nextOther
      rw [nextOther] at stops
      cases stops
  | case2 one event rest next ih =>
    obtain ⟨goesOn, after⟩ := alike.receiveNext
    rw [next] at goesOn after
    rw [@Session.receive.eq_def _ _ other]
    split
    · rename_i nextOther
      rw [nextOther] at goesOn
      cases goesOn
    · rename_i nextOther
      rw [nextOther] at after
      exact ih after

theorem Alike.taken {one other oneAfter otherAfter : Session Scripted}
    (alike : Alike one other) (after : Alike oneAfter otherAfter) :
    takenBetween one oneAfter = takenBetween other otherAfter := by
  unfold Session.takenBetween
  rw [alike.inbox, after.inbox]

/-- **Sessions that are alike take the same and stay alike**, however long they listen. -/
theorem Alike.listen {one other : Session Scripted} (alike : Alike one other)
    (passes : List (List Bus.Taken)) :
    (one.listen passes).1 = (other.listen passes).1 ∧
      Alike (one.listen passes).2 (other.listen passes).2 := by
  induction passes generalizing one other with
  | nil => exact ⟨rfl, alike⟩
  | cons items later ih =>
    have offered : Alike (one.offered items) (other.offered items) :=
      ⟨alike.attached, alike.pending, congrArg (· ++ items) alike.inbox⟩
    obtain ⟨same, after⟩ := ih offered.receive
    refine ⟨?_, after⟩
    show takenBetween _ _ ++ _ = takenBetween _ _ ++ _
    rw [offered.taken offered.receive, same]

/-! ### The answers that are due -/

theorem awaitsHandling_iff (message : Message) :
    message.awaitsHandling ↔ message.kind = .request ∧ message.state = .sent ∧
      ∃ name, message.handler = some name ∧ name ≠ "" := by
  unfold Message.awaitsHandling
  cases message.handler <;> simp [and_assoc]

theorem isForUsAlone_iff (message : Message) :
    isForUsAlone message ↔ message.address = .handler ∨ message.status = .startMessage := by
  simp [isForUsAlone]

/-- **Which answers are due**: one to each request that was sent and names its handler, under its
own id. It has failed if nobody else can handle it, and is rejected otherwise. -/
theorem due?_eq_some_iff {item : Bus.Taken} {frame : Frame} :
    due? item = some frame ↔ ∃ message name,
      item = .ok (some (.message message)) ∧ message.kind = .request ∧ message.state = .sent ∧
        message.handler = some name ∧ name ≠ "" ∧
        frame = .reply message.id
          (if message.address = .handler ∨ message.status = .startMessage then .failed
            else .rejected) .notSupported := by
  unfold due?
  split
  · rename_i message
    rw [Option.ite_none_right_eq_some, awaitsHandling_iff, Option.some_inj]
    simp only [isForUsAlone_iff]
    constructor
    · rintro ⟨⟨isRequest, isSent, name, names, some⟩, rfl⟩
      exact ⟨message, name, rfl, isRequest, isSent, names, some, rfl⟩
    · rintro ⟨_, name, same, isRequest, isSent, names, some, rfl⟩
      cases same
      exact ⟨⟨isRequest, isSent, name, names, some⟩, rfl⟩
  · rename_i other
    constructor
    · intro due
      cases due
    · rintro ⟨message, name, rfl, -⟩
      exact absurd rfl (other message)

/-- **A session answers every live request that names its handler,** once, in the order in which
they come, and sends nothing else while it listens. All that arrives is taken, as long as the
session is held; and what the bus refuses to take from the session changes neither what is taken nor
whether the session is held. -/
theorem live_requests_answered (session : Session Scripted) (passes : List (List Bus.Taken)) :
    (∃ more,
      (session.listen passes).2.connection.calls = session.connection.calls ++ more ∧
        more.filterMap frame? = (session.listen passes).1.filterMap due?) ∧
    (∀ item frame, due? item = some frame ↔ ∃ message name,
      item = .ok (some (.message message)) ∧ message.kind = .request ∧ message.state = .sent ∧
        message.handler = some name ∧ name ≠ "" ∧
        frame = .reply message.id
          (if message.address = .handler ∨ message.status = .startMessage then .failed
            else .rejected) .notSupported) ∧
    session.connection.inbox ++ passes.flatten =
      (session.listen passes).1 ++ (session.listen passes).2.connection.inbox ∧
    ((session.listen passes).2.attached → passes ≠ [] →
      (∀ item ∈ session.connection.inbox ++ passes.flatten, item.goesOn) →
      (session.listen passes).2.connection.inbox = []) ∧
    ∀ refusal : Nat → Option Bus.Fault,
      let other : Session Scripted :=
        { session with connection := { session.connection with refusal } }
      (other.listen passes).1 = (session.listen passes).1 ∧
        (other.listen passes).2.attached = (session.listen passes).2.attached := by
  refine ⟨answers_listen session passes, fun _ _ => due?_eq_some_iff, taken_listen session passes,
    inbox_listen, fun refusal => ?_⟩
  have alike : Alike { session with connection := { session.connection with refusal } } session :=
    ⟨rfl, rfl, rfl⟩
  obtain ⟨same, after⟩ := alike.listen passes
  exact ⟨same, after.attached⟩

/-- What arrives from somebody who asks for something, of the handler that is named if any is. -/
def asked (handler : Option String) : Bus.Taken :=
  .ok (some (.message
    { id := 70, kind := .request, scope := .session, address := .procedure, handler
      operation := "Edit", arguments := [], state := .sent, status := .ok }))

/-- A session as it starts. -/
def untouched : Session Scripted :=
  start {} { procid := "dtsvc.9", invocation := 12, child := 34 }

/-- A request that names its handler is taken and answered. -/
theorem live_requests_answered_named :
    let listened := untouched.listen [[asked (some "dtexec.1")]]
    listened.2.connection.inbox = [] ∧
      listened.2.connection.calls.filterMap frame? = [.reply 70 .rejected .notSupported] := by
  obtain ⟨⟨more, calls, sent⟩, -, -, nothing, -⟩ :=
    live_requests_answered untouched [[asked (some "dtexec.1")]]
  have frames : ∀ item ∈ untouched.connection.inbox ++ [[asked (some "dtexec.1")]].flatten,
      Bus.Taken.goesOn item := by
    intro item within
    rw [List.mem_singleton.mp within]
    rfl
  refine ⟨nothing (by decide +kernel) (List.cons_ne_nil _ _) frames, ?_⟩
  rw [calls, List.filterMap_append, sent]
  decide +kernel

/-- A request that names nobody is let go: a session takes it, is still held and has sent nothing.
-/
theorem unnamed_request_unanswered :
    let listened := untouched.listen [[asked none]]
    listened.1 = [asked none] ∧ listened.2.attached ∧
      listened.2.connection.calls.filterMap frame? = [] := by
  have held : (untouched.listen [[asked none]]).2.attached := by decide +kernel
  have frames : ∀ item ∈ untouched.connection.inbox ++ [[asked none]].flatten,
      Bus.Taken.goesOn item := by
    intro item within
    rw [List.mem_singleton.mp within]
    rfl
  have taken := taken_listen untouched [[asked none]]
  rw [inbox_listen held (List.cons_ne_nil _ _) frames, List.append_nil] at taken
  exact ⟨taken.symm, held, by decide +kernel⟩

end Session

end LaunchSupervisor
