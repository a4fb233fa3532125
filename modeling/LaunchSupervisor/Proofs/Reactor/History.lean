import LaunchSupervisor.Proofs.Session.Report
import LaunchSupervisor.Reactor.Run
import Mathlib.Data.List.Induction

/-!
**What a run has gone through.** A run is looked at from its end, one event more at a time. `Met`
says that the reactor has come to act in a state of some kind; what becomes of the session is
followed from the first event to the last.

* `run_induction`, `alive_run_induction`: what the beginning has, and every further event keeps, the
  whole run has.
* `outside_apply`: what an event does that is no action of the reactor.
* `session_run`: the session of a run has become what a session can become.
* `attached_apply`: a session that is held was held before.
-/

namespace LaunchSupervisor.Reactor

variable {φ : Type} [FileSystem φ]

/-! ### Runs from their end -/

theorem run_concat (first : Reactor φ) (events : List Event) (event : Event) :
    first.run (events ++ [event]) = (first.run events).apply event := by
  rw [run_append]
  rfl

/-- Nothing happens to a run that has ended. -/
theorem apply_finished {reactor : Reactor φ} {exit : Exit}
    (finished : reactor.stage = .finished exit) (event : Event) :
    reactor.apply event = reactor := by
  have ended : reactor.isFinished := by simp [isFinished, finished]
  exact if_pos ended

theorem apply_act (reactor : Reactor φ) : reactor.apply .act = reactor.step := by
  unfold apply
  split
  · rename_i ended
    unfold isFinished at ended
    split at ended
    · rename_i finished
      exact (step_finished finished).symm
    · cases ended
  · rfl

/-- **What happens outside the reactor**: nothing once the run has ended; flags are accessed, by a
handler that lets the process go on or otherwise; a handler ends the process; or something comes in
that the reactor takes up later. -/
inductive Outside (reactor : Reactor φ) : Event → Reactor φ → Prop where
  | ended {event : Event} : Outside reactor event reactor
  | flags {event : Event} {call : SignalCall}
    (calls : event = .handler call ∨ event = .access call) (wake : Option WakePipe) :
    Outside reactor event { reactor with signals := (reactor.signals.apply call).2, wake }
  | exit {call : SignalCall} (files : φ) :
    Outside reactor (.handler call)
      { reactor with
        signals := (reactor.signals.apply call).2, files, stage := .finished .atOnce }
  | arrive (items : List Bus.Taken) : Outside reactor (.arrive items) (reactor.arrive items)
  | busReady : Outside reactor .busReady { reactor with busReady := true }
  | child : Outside reactor .child { reactor with stderr := reactor.stderr.map happen }
  | elapse (milliseconds : Nat) :
    Outside reactor (.elapse milliseconds) { reactor with now := reactor.now + milliseconds }

theorem outside_apply (reactor : Reactor φ) {event : Event} (outside : event ≠ .act) :
    Outside reactor event (reactor.apply event) := by
  unfold apply
  split
  · exact .ended
  · cases event with
    | act => exact absurd rfl outside
    | handler call =>
      dsimp only
      unfold handle
      split
      · exact .flags (Or.inl rfl) reactor.wake
      · exact .flags (Or.inl rfl) (reactor.wake.map WakePipe.poke)
      · exact .exit reactor.files
      · exact .exit (reactor.tempFiles.foldl scrubFile reactor.files)
    | access call => exact .flags (Or.inr rfl) reactor.wake
    | arrive items => exact .arrive items
    | busReady => exact .busReady
    | child => exact .child
    | elapse milliseconds => exact .elapse milliseconds

/-- Nothing outside the reactor moves it on; at most the process ends. -/
theorem stage_outside (reactor : Reactor φ) {event : Event} (outside : event ≠ .act) :
    (reactor.apply event).stage = reactor.stage ∨
      (reactor.apply event).stage = .finished .atOnce := by
  have outside := outside_apply reactor outside
  generalize reactor.apply event = next at outside
  cases outside with
  | exit => exact Or.inr rfl
  | ended | flags | arrive | busReady | child | elapse => exact Or.inl rfl

/-- **Induction along a run**: a property of the reactor that may look back on the events. -/
theorem run_induction (first : Reactor φ) {motive : List Event → Reactor φ → Prop}
    (start : motive [] first)
    (more : ∀ events event, motive events (first.run events) →
      motive (events ++ [event]) ((first.run events).apply event))
    (events : List Event) : motive events (first.run events) := by
  induction events using List.reverseRecOn with
  | nil => exact start
  | append_singleton events event ih =>
    rw [run_concat]
    exact more events event ih

/-- The same for a run that no handler has ended. -/
theorem alive_run_induction (first : Reactor φ) {motive : List Event → Reactor φ → Prop}
    (start : motive [] first)
    (more : ∀ events event, (first.run events).stage ≠ .finished .atOnce →
      motive events (first.run events) →
      ((first.run events).apply event).stage ≠ .finished .atOnce →
      motive (events ++ [event]) ((first.run events).apply event))
    {events : List Event} (alive : (first.run events).stage ≠ .finished .atOnce) :
    motive events (first.run events) := by
  revert alive
  refine run_induction first (motive := fun events reactor =>
    reactor.stage ≠ .finished .atOnce → motive events reactor) (fun _ => start) ?_ events
  intro events event ih alive
  have before : (first.run events).stage ≠ .finished .atOnce := by
    intro ended
    rw [apply_finished ended] at alive
    exact alive ended
  exact more events event before (ih before) alive

/-- Whether in a run the reactor has acted in a state of which something holds. -/
def Met (first : Reactor φ) (events : List Event) (happens : Reactor φ → Prop) : Prop :=
  ∃ before after, events = before ++ .act :: after ∧ happens (first.run before)

theorem met_concat_iff (first : Reactor φ) (events : List Event) (event : Event)
    (happens : Reactor φ → Prop) :
    Met first (events ++ [event]) happens ↔
      Met first events happens ∨ event = .act ∧ happens (first.run events) := by
  constructor
  · rintro ⟨before, after, split, held⟩
    rcases List.eq_nil_or_concat after with rfl | ⟨rest, last, rfl⟩
    · obtain ⟨rfl, same⟩ := List.append_inj' split rfl
      cases same
      exact Or.inr ⟨rfl, held⟩
    · rw [List.concat_eq_append, ← List.cons_append, ← List.append_assoc] at split
      obtain ⟨same, -⟩ := List.append_inj' split rfl
      exact Or.inl ⟨before, rest, same, held⟩
  · rintro (⟨before, after, split, held⟩ | ⟨rfl, held⟩)
    · exact ⟨before, after ++ [event],
        by rw [split, List.append_assoc, List.cons_append], held⟩
    · exact ⟨events, [], rfl, held⟩

theorem Met.concat {first : Reactor φ} {events : List Event} {happens : Reactor φ → Prop}
    (met : Met first events happens) (event : Event) : Met first (events ++ [event]) happens :=
  (met_concat_iff first events event happens).mpr (Or.inl met)

theorem Met.last {first reactor : Reactor φ} {events : List Event} {happens : Reactor φ → Prop}
    (here : first.run events = reactor) (held : happens reactor) :
    Met first (events ++ [.act]) happens :=
  (met_concat_iff first events .act happens).mpr (Or.inr ⟨rfl, by rwa [here]⟩)

/-! ### What an action touches -/

section

omit [FileSystem φ]

theorem await_eq (reactor : Reactor φ) (deadline : Nat) :
    reactor.await deadline =
      { reactor with
        busReady := (reactor.await deadline).busReady
        stage := (reactor.await deadline).stage } := by
  unfold await
  split <;> rfl

theorem stage_await (reactor : Reactor φ) (deadline : Nat) :
    (reactor.await deadline).stage = reactor.stage ∨
      ∃ wake, (reactor.await deadline).stage = .serving wake := by
  unfold await
  split
  · exact Or.inl rfl
  · exact Or.inr ⟨.bus, rfl⟩
  · rename_i wake _ _
    exact Or.inr ⟨wake, rfl⟩

theorem drainStderr_eq (reactor : Reactor φ) :
    reactor.drainStderr =
      { reactor with log := reactor.drainStderr.log, stderr := reactor.drainStderr.stderr } := by
  unfold drainStderr
  split <;> rfl

theorem serve_eq (reactor : Reactor φ) (wake : Wake) :
    reactor.serve wake =
      { reactor with
        wake := (reactor.serve wake).wake
        log := (reactor.serve wake).log
        stderr := (reactor.serve wake).stderr } := by
  cases wake with
  | stderr =>
    show reactor.drainStderr = { reactor with
      wake := reactor.drainStderr.wake
      log := reactor.drainStderr.log
      stderr := reactor.drainStderr.stderr }
    rw [drainStderr_eq]
  | signal | bus | timeout => rfl

theorem receiveNext_eq (reactor : Reactor φ) (learnt : List SessionEvent) :
    reactor.receiveNext learnt =
      { reactor with
        session := (reactor.receiveNext learnt).session
        stage := (reactor.receiveNext learnt).stage } := by
  unfold receiveNext
  split <;> rfl

theorem stage_receiveNext (reactor : Reactor φ) (learnt : List SessionEvent) :
    ∃ more, (reactor.receiveNext learnt).stage = .receiving more ∨
      (reactor.receiveNext learnt).stage = .learning more := by
  unfold receiveNext
  split
  · exact ⟨learnt, Or.inr rfl⟩
  · dsimp only
    split
    · exact ⟨_, Or.inl rfl⟩
    · exact ⟨_, Or.inr rfl⟩

theorem learn_eq (reactor : Reactor φ) (event : SessionEvent) :
    reactor.learn event = { reactor with core := (reactor.learn event).core } := by
  cases event <;> rfl

end

theorem scrub_eq (reactor : Reactor φ) :
    reactor.scrub =
      { reactor with scrubbed := reactor.scrub.scrubbed, files := reactor.scrub.files } := by
  unfold scrub
  split <;> rfl

/-! ### The session -/

section

omit [FileSystem φ]

theorem rel_same (session : Option (Session Bus.Scripted)) :
    Option.Rel Session.Change session session := by
  cases session with
  | none => exact .none
  | some session => exact .some (Or.inl (.refl session))

theorem rel_map {act : Session Bus.Scripted → Session Bus.Scripted}
    (change : ∀ session, Session.Change session (act session))
    (session : Option (Session Bus.Scripted)) :
    Option.Rel Session.Change session (session.map act) := by
  cases session with
  | none => exact .none
  | some session => exact .some (change session)

/-- One action more. -/
theorem rel_change {first current next : Option (Session Bus.Scripted)}
    (since : Option.Rel Session.Since first current)
    (change : Option.Rel Session.Change current next) : Option.Rel Session.Since first next := by
  cases since with
  | none =>
    cases change
    exact .none
  | some since =>
    cases change with
    | some change => exact .some (since.change change)

theorem any_attached_of_rel {current next : Option (Session Bus.Scripted)}
    (change : Option.Rel Session.Change current next) (held : next.any (·.attached)) :
    current.any (·.attached) := by
  cases change with
  | none => exact held
  | some change => exact change.attached held

theorem session_detach (reactor : Reactor φ) (stage : Stage) :
    Option.Rel Session.Change reactor.session
      ((reactor.onSession Session.detach).goto stage).session :=
  rel_map (fun session => Or.inl (Session.quiet_detach session)) _

theorem session_receiveNext (reactor : Reactor φ) (learnt : List SessionEvent) :
    Option.Rel Session.Change reactor.session (reactor.receiveNext learnt).session := by
  unfold receiveNext
  split
  · exact rel_same _
  · rename_i session held
    rw [held]
    exact .some (Or.inl (Session.quiet_receiveNext session))

end

theorem session_giveNotice (reactor : Reactor φ) :
    Option.Rel Session.Change reactor.session reactor.giveNotice.session := by
  show Option.Rel _ _ (reactor.notice.runIfDue reactor.now reactor.session reactor.files).2
  unfold Notice.runIfDue
  split
  · exact rel_same _
  · unfold Notice.tell
    dsimp only
    split
    · exact rel_same _
    · refine rel_map (fun session => Or.inl ?_) _
      split
      · exact Session.quiet_tellIconCache session _ _
      · exact .refl session

theorem session_execute (reactor : Reactor φ) (command : Shutdown.Command)
    (rest : List Shutdown.Command) (keepRunning : Bool) :
    Option.Rel Session.Change reactor.session
      (reactor.execute command rest keepRunning).session := by
  cases command with
  | sendDone status => exact rel_map (fun _ => Or.inr ⟨status, rfl⟩) _
  | detachSession => exact rel_map (fun session => Or.inl (Session.quiet_detach session)) _
  | scrubTempFiles =>
    show Option.Rel _ _ reactor.scrub.session
    rw [scrub_eq]
    exact rel_same _
  | clearUrgent => exact rel_same _
  | panic => exact rel_same _
  | finalLinger => exact rel_same _

theorem session_panic (reactor : Reactor φ) :
    Option.Rel Session.Change reactor.session reactor.panic.session := by
  unfold panic
  split
  · exact rel_map (fun _ => Or.inr ⟨.failed, rfl⟩) _
  · show Option.Rel _ _ reactor.scrub.session
    rw [scrub_eq]
    exact rel_same _

theorem session_step (reactor : Reactor φ) :
    Option.Rel Session.Change reactor.session reactor.step.session := by
  cases stage : reactor.stage with
  | waiting deadline =>
    simp only [step, stage]
    rw [await_eq]
    exact rel_same _
  | serving wake =>
    simp only [step, stage]
    rw [serve_eq]
    exact rel_same _
  | receiving learnt =>
    simp only [step, stage]
    exact session_receiveNext reactor learnt
  | learning learnt =>
    cases learnt with
    | nil =>
      simp only [step, stage]
      exact rel_same _
    | cons event rest =>
      simp only [step, stage]
      rw [learn_eq]
      exact rel_same _
  | noticing =>
    simp only [step, stage]
    exact session_giveNotice reactor
  | executing commands keepRunning =>
    cases commands with
    | nil =>
      cases keepRunning <;> simp only [step, stage] <;> exact rel_same _
    | cons command rest =>
      simp only [step, stage]
      exact session_execute reactor command rest keepRunning
  | leaving =>
    simp only [step, stage]
    exact session_detach reactor _
  | panicking =>
    simp only [step, stage]
    exact session_panic reactor
  | panicDetaching =>
    simp only [step, stage]
    exact session_detach reactor _
  | _ =>
    simp only [step, stage]
    exact rel_same _

theorem session_apply (reactor : Reactor φ) (event : Event) :
    Option.Rel Session.Change reactor.session (reactor.apply event).session := by
  by_cases acts : event = .act
  · rw [acts, apply_act]
    exact session_step reactor
  · have outside := outside_apply reactor acts
    generalize reactor.apply event = next at outside
    cases outside with
    | arrive items => exact rel_map (fun session => Or.inl (Session.quiet_arrive session items)) _
    | ended | flags | exit | busReady | child | elapse => exact rel_same _

/-- **The session of a run**, if there is one, is what the first has become. -/
theorem session_run (reactor : Reactor φ) (events : List Event) :
    Option.Rel Session.Since reactor.session (reactor.run events).session := by
  refine run_induction reactor (motive := fun _ later =>
    Option.Rel Session.Since reactor.session later.session) ?_ ?_ events
  · cases reactor.session with
    | none => exact .none
    | some session => exact .some (.refl session)
  · intro events event since
    exact rel_change since (session_apply _ event)

/-- The session at the end of a run, and what it has come from. -/
theorem exists_session_of_run {reactor : Reactor φ} {events : List Event}
    {session : Session Bus.Scripted} (held : (reactor.run events).session = some session) :
    ∃ first, reactor.session = some first ∧ Session.Since first session := by
  have since := session_run reactor events
  rw [held] at since
  cases start : reactor.session with
  | none =>
    rw [start] at since
    cases since
  | some first =>
    rw [start] at since
    cases since with
    | some since => exact ⟨first, rfl, since⟩

/-- The session at the start of a run, and what becomes of it. -/
theorem exists_session_run {reactor : Reactor φ} {first : Session Bus.Scripted}
    (held : reactor.session = some first) (events : List Event) :
    ∃ session, (reactor.run events).session = some session ∧ Session.Since first session := by
  have since := session_run reactor events
  rw [held] at since
  cases last : (reactor.run events).session with
  | none =>
    rw [last] at since
    cases since
  | some session =>
    rw [last] at since
    cases since with
    | some since => exact ⟨session, rfl, since⟩

omit [FileSystem φ] in
theorem attached_iff (reactor : Reactor φ) :
    reactor.attached ↔ ∃ session, reactor.session = some session ∧ session.attached :=
  Option.any_eq_true _ _

/-! ### The session is given up for good -/

theorem attached_apply {reactor : Reactor φ} {event : Event}
    (held : (reactor.apply event).attached) : reactor.attached :=
  any_attached_of_rel (session_apply reactor event) held

theorem gone_apply {reactor : Reactor φ} (gone : reactor.attached = false) (event : Event) :
    (reactor.apply event).attached = false := by
  rw [Bool.eq_false_iff] at gone ⊢
  exact fun held => gone (attached_apply held)

end LaunchSupervisor.Reactor
