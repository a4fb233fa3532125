import LaunchSupervisor.Proofs.Reactor.Turn
import LaunchSupervisor.Proofs.Session.Conversation
import LaunchSupervisor.Proofs.Shutdown.Safety

/-!
**What a run says on the bus.** The reactor uses its session in five ways: things arrive for it, it
receives, it gives the notice, it reports the end of the command, and it gives the session up. What
the connection was asked for over a whole run is therefore a conversation of one form, from the
introduction to the close.

* `conversation_run`: the statement, for every run.
* `contact_apply`: the list of uses is complete.
* `ordered_run`: a report is ordered only after the end of the command was seen.
* `closed_run`: the session is given up before the run ends.
-/

namespace LaunchSupervisor.Reactor

open Bus (Call Scripted)
open Shutdown (Command)

variable {φ : Type}

/-! ### The uses of the session -/

/-- Whether the reactor is about to report a status: as it was ordered to, or of a panic. -/
inductive Reporting (reactor : Reactor φ) : ChildStatus → Prop where
  | ordered {status : ChildStatus} {rest : List Command} {keepRunning : Bool}
    (stage : reactor.stage = .executing (.sendDone status :: rest) keepRunning) :
    Reporting reactor status
  | panicking (stage : reactor.stage = .panicking) : Reporting reactor .failed

section

variable [FileSystem φ]

/-- **What an event does to the session and the notice.** -/
inductive Contact (reactor : Reactor φ) : Event → Reactor φ → Prop where
  | nothing {event : Event} {next : Reactor φ} (session : next.session = reactor.session)
    (notice : next.notice = reactor.notice)
    (deaf : (∀ items, event ≠ .arrive items) ∨ next.isFinished) : Contact reactor event next
  | arrive (items : List Bus.Taken) (unfinished : reactor.isFinished = false) :
    Contact reactor (.arrive items) (reactor.arrive items)
  | receive (learnt : List SessionEvent) : Contact reactor .act (reactor.receiveNext learnt)
  | notice : Contact reactor .act reactor.giveNotice
  | report {status : ChildStatus} (reporting : Reporting reactor status) (stage : Stage) :
    Contact reactor .act ((reactor.onSession (·.reportDone status)).goto stage)
  | detach (stage : Stage) :
    Contact reactor .act ((reactor.onSession Session.detach).goto stage)

/-- An action that has nothing to do with the session. -/
theorem contact_same {reactor next : Reactor φ} (session : next.session = reactor.session)
    (notice : next.notice = reactor.notice) : Contact reactor .act next :=
  .nothing session notice (Or.inl fun _ same => by cases same)

theorem contact_execute {reactor : Reactor φ} {command : Command} {rest : List Command}
    {keepRunning : Bool} (stage : reactor.stage = .executing (command :: rest) keepRunning) :
    Contact reactor .act (reactor.execute command rest keepRunning) := by
  cases command with
  | sendDone status => exact .report (.ordered stage) _
  | detachSession => exact .detach _
  | scrubTempFiles =>
    show Contact reactor .act (reactor.scrub.goto _)
    rw [scrub_eq]
    exact contact_same rfl rfl
  | clearUrgent | panic | finalLinger => exact contact_same rfl rfl

theorem contact_step (reactor : Reactor φ) : Contact reactor .act reactor.step := by
  cases stage : reactor.stage with
  | waiting deadline =>
    simp only [step, stage]
    rw [await_eq]
    exact contact_same rfl rfl
  | serving wake =>
    simp only [step, stage]
    rw [serve_eq]
    exact contact_same rfl rfl
  | receiving learnt =>
    simp only [step, stage]
    exact .receive learnt
  | learning learnt =>
    cases learnt with
    | nil =>
      simp only [step, stage]
      exact contact_same rfl rfl
    | cons event rest =>
      simp only [step, stage]
      rw [learn_eq]
      exact contact_same rfl rfl
  | noticing =>
    simp only [step, stage]
    exact .notice
  | executing commands keepRunning =>
    cases commands with
    | nil => cases keepRunning <;> simp only [step, stage] <;> exact contact_same rfl rfl
    | cons command rest =>
      simp only [step, stage]
      exact contact_execute stage
  | leaving =>
    simp only [step, stage]
    exact .detach _
  | panicking =>
    simp only [step, stage]
    unfold panic
    split
    · exact .report (.panicking stage) _
    · rw [scrub_eq]
      exact contact_same rfl rfl
  | panicDetaching =>
    simp only [step, stage]
    exact .detach _
  | _ =>
    simp only [step, stage]
    exact contact_same rfl rfl

theorem contact_apply (reactor : Reactor φ) (event : Event) :
    Contact reactor event (reactor.apply event) := by
  by_cases acts : event = .act
  · rw [acts, apply_act]
    exact contact_step reactor
  by_cases arrives : ∃ items, event = .arrive items
  · obtain ⟨items, rfl⟩ := arrives
    unfold apply
    split
    · rename_i finished
      exact .nothing rfl rfl (Or.inr finished)
    · rename_i unfinished
      exact .arrive items (Bool.eq_false_iff.mpr unfinished)
  · have outside := outside_apply reactor acts
    have deaf : ∀ items, event ≠ .arrive items := fun items same => arrives ⟨items, same⟩
    generalize reactor.apply event = next at outside
    cases outside with
    | arrive items => exact absurd rfl (deaf items)
    | ended | flags | exit | busReady | child | elapse => exact .nothing rfl rfl (Or.inl deaf)

/-! ### What was seen before a report -/

/-- Whether the reactor is about to see, for its next tick, that the command is over. -/
def SeesExit (reactor : Reactor φ) : Prop :=
  reactor.stage = .seeExited ∧ reactor.signals.childExited

/-- Whether the reactor is about to see to a panic. -/
def Panicking (reactor : Reactor φ) : Prop :=
  reactor.stage = .panicking

/-- Whether the end of the command was seen for the tick to come. -/
def Stage.hasSeenExit : Stage → Bool
  | .seeUrgent exited => exited
  | .ticking exited _ => exited
  | _ => false

/-- **A report is ordered only after the end of the command was seen**, and says that it is done. -/
structure Ordered (first : Reactor φ) (events : List Event) (stage : Stage) : Prop where
  seen : stage.hasSeenExit → Met first events SeesExit
  ordered : ∀ status, .sendDone status ∈ stage.commands →
    status = .done ∧ Met first events SeesExit

section

variable {first : Reactor φ} {events : List Event}

/-- A stage without a view of the command and without orders. -/
theorem ordered_blank {stage : Stage} (blind : stage.hasSeenExit = false)
    (idle : stage.commands = []) : Ordered first events stage := by
  refine ⟨fun seen => ?_, fun status ordered => ?_⟩
  · rw [blind] at seen
    cases seen
  · rw [idle] at ordered
    cases ordered

/-- A stage whose orders are among those before. -/
theorem Ordered.fewer {before after : Stage} (ordered : Ordered first events before)
    (blind : after.hasSeenExit = false) (orders : after.commands ⊆ before.commands) :
    Ordered first events after := by
  refine ⟨fun seen => ?_, fun status order => ordered.ordered status (orders order)⟩
  rw [blind] at seen
  cases seen

theorem Ordered.concat {stage : Stage} (ordered : Ordered first events stage) (event : Event) :
    Ordered first (events ++ [event]) stage :=
  ⟨fun seen => (ordered.seen seen).concat event, fun status order =>
    ⟨(ordered.ordered status order).1, (ordered.ordered status order).2.concat event⟩⟩

theorem Ordered.step {reactor : Reactor φ} (ordered : Ordered first events reactor.stage)
    (here : first.run events = reactor) :
    Ordered first (events ++ [.act]) reactor.step.stage := by
  have later := ordered.concat .act
  cases stage : reactor.stage with
  | seeExited =>
    simp only [Reactor.step, stage]
    exact ⟨fun exited => .last here ⟨stage, exited⟩, fun status order => by cases order⟩
  | seeUrgent exited =>
    simp only [Reactor.step, stage]
    rw [stage] at later
    exact ⟨later.seen, fun status order => by cases order⟩
  | ticking exited urgent =>
    simp only [Reactor.step, stage]
    rw [stage] at later
    refine ⟨fun seen => (by cases seen), fun status order => ?_⟩
    obtain ⟨ended, -, -, done⟩ := Shutdown.Core.sendDone_mem_tick order
    exact ⟨done, later.seen ended⟩
  | publishing answer | realigning commands keepRunning =>
    simp only [Reactor.step, stage]
    rw [stage] at later
    exact later.fewer rfl (List.Subset.refl _)
  | executing commands keepRunning =>
    rw [stage] at later
    cases commands with
    | nil => cases keepRunning <;> simp only [Reactor.step, stage] <;> exact ordered_blank rfl rfl
    | cons command rest =>
      simp only [Reactor.step, stage]
      cases command with
      | panic => exact ordered_blank rfl rfl
      | sendDone | detachSession | scrubTempFiles | clearUrgent | finalLinger =>
        exact later.fewer rfl (List.subset_cons_self _ _)
  | top | pollExited | recheck | opening =>
    simp only [Reactor.step, stage]
    split <;> exact ordered_blank rfl rfl
  | waiting deadline =>
    simp only [Reactor.step, stage]
    rcases stage_await reactor deadline with same | ⟨wake, wakes⟩
    · rw [same]
      exact later
    · rw [wakes]
      exact ordered_blank rfl rfl
  | receiving learnt =>
    simp only [Reactor.step, stage]
    obtain ⟨more, next | next⟩ := stage_receiveNext reactor learnt <;> rw [next] <;>
      exact ordered_blank rfl rfl
  | learning learnt =>
    cases learnt <;> simp only [Reactor.step, stage] <;> exact ordered_blank rfl rfl
  | panicking =>
    simp only [Reactor.step, stage, panic]
    split <;> exact ordered_blank rfl rfl
  | finished exit =>
    rw [step_finished stage]
    exact later
  | _ =>
    simp only [Reactor.step, stage]
    exact ordered_blank rfl rfl

theorem ordered_run (setup : Setup φ) (events : List Event) :
    Ordered (start setup) events ((start setup).run events).stage := by
  refine run_induction (start setup) (motive := fun events (reactor : Reactor φ) =>
    Ordered (start setup) events reactor.stage) ?_ ?_ events
  · exact ordered_blank rfl rfl
  · intro events event ordered
    by_cases acts : event = .act
    · rw [acts, apply_act]
      exact ordered.step rfl
    · rcases stage_outside ((start setup).run events) acts with same | ended
      · rw [same]
        exact ordered.concat event
      · rw [ended]
        exact ordered_blank rfl rfl

end

/-! ### The session is given up in the end -/

/-- Whether the loop has been left and the session with it. -/
def Stage.isClosed : Stage → Bool
  | .left => true
  | .panicked => true
  | .finished exit => exit != .atOnce
  | _ => false

theorem closed_step {reactor : Reactor φ}
    (closed : reactor.stage.isClosed → reactor.attached = false)
    (now : reactor.step.stage.isClosed) : reactor.step.attached = false := by
  cases stage : reactor.stage with
  | left | panicked =>
    simp only [step, stage]
    exact closed (by rw [stage]; rfl)
  | finished exit =>
    rw [step_finished stage] at now ⊢
    exact closed now
  | leaving | panicDetaching =>
    simp only [step, stage]
    exact attached_onSession_detach reactor
  | panicking =>
    simp only [step, stage, panic] at now ⊢
    split at now
    · cases now
    · rename_i gone
      rw [if_neg gone, scrub_eq]
      exact Bool.eq_false_iff.mpr gone
  | top | pollExited | recheck | opening =>
    simp only [step, stage] at now
    split at now <;> cases now
  | waiting deadline =>
    simp only [step, stage] at now
    rcases stage_await reactor deadline with same | ⟨wake, wakes⟩
    · rw [same, stage] at now
      cases now
    · rw [wakes] at now
      cases now
  | receiving learnt =>
    simp only [step, stage] at now
    obtain ⟨more, next | next⟩ := stage_receiveNext reactor learnt <;> rw [next] at now <;>
      cases now
  | learning learnt => cases learnt <;> simp only [step, stage] at now <;> cases now
  | executing commands keepRunning =>
    cases commands with
    | nil => cases keepRunning <;> simp only [step, stage] at now <;> cases now
    | cons command rest => cases command <;> simp only [step, stage] at now <;> cases now
  | _ =>
    simp only [step, stage] at now
    cases now

/-- **The session is given up before the run ends**, unless a handler ends it. -/
theorem closed_run (setup : Setup φ) (events : List Event) :
    ((start setup).run events).stage.isClosed → ((start setup).run events).attached = false := by
  refine run_induction (start setup) (motive := fun _ (reactor : Reactor φ) =>
    reactor.stage.isClosed → reactor.attached = false) ?_ ?_ events
  · intro closed
    cases closed
  · intro events event closed now
    by_cases acts : event = .act
    · rw [acts, apply_act] at now ⊢
      exact closed_step closed now
    · rcases stage_outside ((start setup).run events) acts with same | ended
      · rw [same] at now
        exact gone_apply (closed now) event
      · rw [ended] at now
        cases now

/-! ### The conversation -/

/-- The notice changes a session only when its time comes, and if the session is held. -/
theorem runIfDue_cases (notice : Notice) (now : Nat) (session : Session Scripted) (files : φ) :
    notice.runIfDue now (some session) files = (notice, some session) ∨
      notice.fired = false ∧ ∃ next,
        notice.runIfDue now (some session) files = (notice.markDone, some next) ∧
          (next = session ∨ session.attached ∧ ∃ action children,
            next = (session.tellIconCache action children).2) := by
  unfold Notice.runIfDue
  split
  · exact Or.inl rfl
  · rename_i plan due
    have unfired : notice.fired = false := by
      unfold Notice.due? at due
      split at due
      · cases due
      · rename_i unfired
        exact Bool.eq_false_iff.mpr unfired
    refine Or.inr ⟨unfired, ?_⟩
    unfold Notice.tell
    dsimp only
    split
    · exact ⟨session, rfl, Or.inl rfl⟩
    · cases attached : session.attached with
      | false => exact ⟨session, by simp [attached], Or.inl rfl⟩
      | true =>
        exact ⟨_, by rw [Option.map_some, if_pos attached],
          Or.inr ⟨rfl, plan.action, _, rfl⟩⟩

/-- What has arrived from the bus. -/
def arrived (events : List Event) : List Bus.Taken :=
  events.flatMap fun event =>
    match event with
    | .arrive items => items
    | _ => []

theorem arrived_concat (events : List Event) (event : Event) :
    arrived (events ++ [event]) = arrived events ++ arrived [event] := by
  simp [arrived]

theorem arrived_of_deaf {event : Event} (deaf : ∀ items, event ≠ .arrive items) :
    arrived [event] = [] := by
  cases event with
  | arrive items => exact absurd rfl (deaf items)
  | _ => rfl

/-- **Why a report was made**: the command is done, and its end was seen before, or it has failed,
and the reactor sees to a panic. -/
def Caused (first : Reactor φ) (events : List Event) (report : Bus.Message) : Prop :=
  report.arguments.getLast? = some (.int 16) ∧ Met first events SeesExit ∨
    report.arguments.getLast? = some (.int 32) ∧ Met first events Panicking

/-- **What was said in a run**: the session is in conversation, has taken what came in from the
front, and every report has its cause. -/
structure Spoken (first : Reactor φ) (introduced : Session Scripted) (events : List Event)
    (reactor : Reactor φ) (session : Session Scripted) (taken : List Bus.Taken)
    (body : List Call) : Prop where
  held : reactor.session = some session
  talk : Session.Talk introduced taken reactor.notice.fired body session
  heard : taken ++ session.connection.inbox <+: introduced.connection.inbox ++ arrived events
  all : reactor.isFinished = false →
    taken ++ session.connection.inbox = introduced.connection.inbox ++ arrived events
  caused : ∀ message ∈ body.filterMap Session.message?,
    message.operation = Session.doneOperation → Caused first events message

theorem Caused.concat {first : Reactor φ} {events : List Event} {report : Bus.Message}
    (caused : Caused first events report) (event : Event) :
    Caused first (events ++ [event]) report :=
  caused.imp (fun done => ⟨done.1, done.2.concat event⟩) fun failed =>
    ⟨failed.1, failed.2.concat event⟩

section

variable {first reactor next : Reactor φ} {introduced session : Session Scripted}
  {events : List Event} {taken : List Bus.Taken} {body : List Call}

/-- The session was used in some way, and nothing came in. -/
theorem Spoken.used (spoken : Spoken first introduced events reactor session taken body)
    {later : Session Scripted} {items : List Bus.Taken} {more : List Call} {event : Event}
    (deaf : arrived [event] = []) (held : next.session = some later)
    (talk : Session.Talk introduced items next.notice.fired (body ++ more) later)
    (inbox : items ++ later.connection.inbox = taken ++ session.connection.inbox)
    (open_ : next.isFinished = false → reactor.isFinished = false)
    (caused : ∀ message ∈ more.filterMap Session.message?,
      message.operation = Session.doneOperation → Caused first (events ++ [event]) message) :
    Spoken first introduced (events ++ [event]) next later items (body ++ more) := by
  refine ⟨held, talk, ?_, fun unfinished => ?_, fun message listed isReport => ?_⟩
  · rw [inbox, arrived_concat, deaf, List.append_nil]
    exact spoken.heard
  · rw [inbox, arrived_concat, deaf, List.append_nil]
    exact spoken.all (open_ unfinished)
  · rw [List.filterMap_append] at listed
    rcases List.mem_append.mp listed with earlier | now
    · exact (spoken.caused message earlier isReport).concat event
    · exact caused message now isReport

theorem Spoken.onSession (spoken : Spoken first introduced events reactor session taken body)
    (act : Session Scripted → Session Scripted) :
    (reactor.onSession act).session = some (act session) := by
  show reactor.session.map act = _
  rw [spoken.held]
  rfl

/-- The cause of a report that is about to be made. -/
theorem Reporting.caused {status : ChildStatus} (reporting : Reporting reactor status)
    (ordered : Ordered first events reactor.stage) (here : first.run events = reactor)
    {report : Bus.Message} {earlier : List Bus.Argument}
    (carries : report.arguments = earlier ++ [.int status.code]) :
    Caused first (events ++ [.act]) report := by
  have last : report.arguments.getLast? = some (.int status.code) := by
    rw [carries, List.getLast?_concat]
  cases reporting with
  | ordered stage =>
    obtain ⟨rfl, seen⟩ := ordered.ordered status (by rw [stage]; exact List.mem_cons_self)
    exact Or.inl ⟨last, seen.concat .act⟩
  | panicking stage => exact Or.inr ⟨last, .last here stage⟩

/-- The notice is given, or its time has not come, or there is nobody to be told. -/
theorem Spoken.notice (spoken : Spoken first introduced events reactor session taken body)
    (open_ : reactor.giveNotice.isFinished = false → reactor.isFinished = false) :
    ∃ later more, Spoken first introduced (events ++ [.act]) reactor.giveNotice later taken
      (body ++ more) := by
  have result : (reactor.giveNotice.notice, reactor.giveNotice.session) =
      reactor.notice.runIfDue reactor.now (some session) reactor.files := by
    rw [← spoken.held]
    rfl
  rcases runIfDue_cases reactor.notice reactor.now session reactor.files with
    early | ⟨unfired, later, due, told⟩
  · rw [early] at result
    obtain ⟨same, held⟩ := Prod.mk.inj result
    refine ⟨session, [], spoken.used rfl held ?_ rfl open_ (by simp)⟩
    rw [same, List.append_nil]
    exact spoken.talk
  · rw [due] at result
    obtain ⟨marked, held⟩ := Prod.mk.inj result
    have fired : reactor.giveNotice.notice.fired = true := by
      rw [marked]
      rfl
    have talk := spoken.talk
    rw [unfired] at talk
    rcases told with rfl | ⟨attached, action, children, rfl⟩
    · refine ⟨later, [], spoken.used rfl held ?_ rfl open_ (by simp)⟩
      rw [fired, List.append_nil]
      exact talk.marked
    · obtain ⟨more, said, isNotice⟩ := talk.tell attached action children
      refine ⟨_, more, spoken.used rfl held (by rw [fired]; exact said) ?_ open_ ?_⟩
      · rw [(Session.adds_tellIconCache attached action children).2.1]
      · intro message listed isReport
        rw [isNotice message listed] at isReport
        exact absurd isReport (by decide)

/-- The next thing is received. -/
theorem Spoken.receive (spoken : Spoken first introduced events reactor session taken body)
    {learnt : List SessionEvent}
    (open_ : (reactor.receiveNext learnt).isFinished = false → reactor.isFinished = false) :
    ∃ later items more, Spoken first introduced (events ++ [.act]) (reactor.receiveNext learnt)
      later items (body ++ more) := by
  have held : (reactor.receiveNext learnt).session = some session.receiveNext.2.2 := by
    unfold Reactor.receiveNext
    rw [spoken.held]
  have notice : (reactor.receiveNext learnt).notice = reactor.notice := by
    rw [receiveNext_eq]
  cases attached : session.attached with
  | false =>
    rw [Session.receiveNext_gone attached] at held
    refine ⟨session, taken, [], spoken.used rfl held ?_ rfl open_ (by simp)⟩
    rw [notice, List.append_nil]
    exact spoken.talk
  | true =>
    obtain ⟨more, talk, silent⟩ := spoken.talk.receiveNext attached
    refine ⟨_, _, more, spoken.used rfl held (by rw [notice]; exact talk) ?_ open_ ?_⟩
    · rw [Session.inbox_receiveNext attached, List.append_assoc, ← List.drop_one,
        List.take_append_drop]
    · rw [silent]
      simp

/-- **One event more.** -/
theorem Spoken.contact (spoken : Spoken first introduced events reactor session taken body)
    {event : Event} (contact : Contact reactor event next)
    (ordered : Ordered first events reactor.stage) (here : first.run events = reactor)
    (open_ : next.isFinished = false → reactor.isFinished = false) :
    ∃ later items more,
      Spoken first introduced (events ++ [event]) next later items more := by
  cases contact with
  | nothing same notice deaf =>
    refine ⟨session, taken, body, same.trans spoken.held, ?_, ?_, fun unfinished => ?_,
      fun message listed isReport => (spoken.caused message listed isReport).concat event⟩
    · rw [notice]
      exact spoken.talk
    · rw [arrived_concat, ← List.append_assoc]
      exact spoken.heard.trans (List.prefix_append _ _)
    · rcases deaf with deaf | finished
      · rw [arrived_concat, arrived_of_deaf deaf, List.append_nil]
        exact spoken.all (open_ unfinished)
      · rw [finished] at unfinished
        cases unfinished
  | arrive items unfinished =>
    have grown : taken ++ (session.connection.inbox ++ items) =
        introduced.connection.inbox ++ arrived (events ++ [.arrive items]) := by
      rw [arrived_concat, ← List.append_assoc, ← List.append_assoc, spoken.all unfinished]
      simp [arrived]
    refine ⟨_, taken, body, ?_, spoken.talk.still (Session.adds_arrive session items) rfl id,
      ?_, fun _ => grown,
      fun message listed isReport => (spoken.caused message listed isReport).concat _⟩
    · exact spoken.onSession _
    · exact ⟨[], (List.append_nil _).trans grown⟩
  | receive learnt =>
    obtain ⟨later, items, more, spoken⟩ := spoken.receive open_
    exact ⟨later, items, body ++ more, spoken⟩
  | notice =>
    obtain ⟨later, more, spoken⟩ := spoken.notice open_
    exact ⟨later, taken, body ++ more, spoken⟩
  | @report status reporting stage =>
    obtain ⟨more, talk, carries⟩ := spoken.talk.report status
    refine ⟨_, taken, body ++ more,
      spoken.used rfl (spoken.onSession (·.reportDone status)) talk ?_ open_ ?_⟩
    · rw [(Session.adds_reportDone session status).2.1]
    · exact fun message listed _ => reporting.caused ordered here (carries message listed)
  | detach stage =>
    refine ⟨_, taken, body ++ [],
      spoken.used rfl (spoken.onSession Session.detach) ?_ ?_ open_ (by simp)⟩
    · rw [List.append_nil]
      refine spoken.talk.still (Session.adds_detach session) (Session.nextId_detach session) ?_
      rw [(Session.quiet_detach session).doneSent]
      exact id
    · rw [Session.inbox_detach]

end

/-! ### The statement -/

/-- The reactor before its first iteration, with the session of a supervisor that has introduced
itself. -/
def startIntroduced (setup : Setup φ) (connection : Scripted) (caller : Caller) : Reactor φ :=
  start { setup with session := some (Supervisor.introduce connection caller) }

theorem spoken_run (setup : Setup φ) (connection : Scripted) (caller : Caller)
    (events : List Event) :
    ∃ session taken body, Spoken (startIntroduced setup connection caller)
      (Supervisor.introduce connection caller) events
      ((startIntroduced setup connection caller).run events) session taken body := by
  obtain ⟨joined, identified, introduced⟩ := Session.introduced connection caller
  refine run_induction (startIntroduced setup connection caller)
    (motive := fun events (reactor : Reactor φ) => ∃ session taken body,
      Spoken (startIntroduced setup connection caller) (Supervisor.introduce connection caller)
        events reactor session taken body) ?_ ?_ events
  · refine ⟨_, [], [], rfl, Session.talk_start introduced.nextId _, ?_, fun _ => ?_, by simp⟩
    · simp [arrived]
    · simp [arrived]
  · intro events event ⟨session, taken, body, spoken⟩
    refine spoken.contact (contact_apply _ event) (ordered_run _ events) rfl fun unfinished => ?_
    rw [Bool.eq_false_iff] at unfinished ⊢
    intro finished
    have same : ((startIntroduced setup connection caller).run events).apply event =
        (startIntroduced setup connection caller).run events := if_pos finished
    rw [same] at unfinished
    exact unfinished finished

/-- **What a run says on the bus** is one conversation, from the introduction to the close. The
answers in it are those to a first part of what came in. A run that no handler has ended is closed.
A report of 16 is made only after the end of the command was seen, one of 32 only in a panic. And a
session that was given up stays so, whatever else is asked of it. -/
theorem conversation_run (setup : Setup φ) (connection : Scripted) (caller : Caller)
    (events : List Event) :
    let first := startIntroduced setup connection caller
    let last := first.run events
    ∃ session taken joined identified body, last.session = some session ∧
      Session.Conversation connection taken joined identified body session ∧
      taken <+: connection.inbox ++ arrived events ∧
      (last.stage = .finished .completed ∨ last.stage = .finished .panicked →
        session.attached = false) ∧
      (∀ message ∈ body.filterMap Session.message?,
        message.operation = Session.doneOperation →
        message.arguments.getLast? = some (.int 16) ∧ Met first events SeesExit ∨
          message.arguments.getLast? = some (.int 32) ∧ Met first events Panicking) ∧
      ∀ (gone : Session Scripted) (use : Session.Use), gone.attached = false →
        (gone.use use).2.attached = false ∧
          (gone.use use).2.connection.calls = gone.connection.calls := by
  intro first last
  obtain ⟨joined, identified, introduced⟩ := Session.introduced connection caller
  obtain ⟨session, taken, body, spoken⟩ := spoken_run setup connection caller events
  refine ⟨session, taken, joined, identified, body, spoken.held,
    introduced.conversation spoken.talk, ?_, fun finished => ?_, spoken.caused,
    fun gone use detached => Session.use_gone detached use⟩
  · rw [← introduced.inbox]
    exact (List.prefix_append _ _).trans spoken.heard
  · have closed : last.attached = false := by
      refine closed_run _ events ?_
      rcases finished with finished | finished <;> exact congrArg Stage.isClosed finished
    unfold attached at closed
    rwa [spoken.held] at closed

end

end LaunchSupervisor.Reactor
