import LaunchSupervisor.Proofs.Reactor.History
import LaunchSupervisor.Proofs.Shutdown.Tick

/-!
**What one event does to the cleanup.** Of all that can happen in a run only five actions of the
reactor touch what the cleanup rests on: it receives, it tells the shutdown what it has learnt, it
feeds it a tick, it scrubs because it was ordered to, and it scrubs in a panic. Everything else is
`Calm`.

* `turn_apply`: the list is complete, for a process that no handler has ended.
-/

namespace LaunchSupervisor.Reactor

open Shutdown (Command Guarded)

variable {φ : Type}

/-! ### What a stage has before it -/

namespace Stage

/-- The commands that are yet to be carried out. -/
def commands : Stage → List Command
  | .publishing step => step.commands
  | .executing commands _ => commands
  | .realigning commands _ => commands
  | _ => []

/-- What was learnt and has not been told to the shutdown. -/
def learnt : Stage → List SessionEvent
  | .receiving learnt => learnt
  | .learning learnt => learnt
  | _ => []

/-- Whether the loop is left, or will be once the commands are carried out. -/
def isLast : Stage → Bool
  | .publishing step => !step.keepRunning
  | .executing _ keepRunning => !keepRunning
  | .realigning _ keepRunning => !keepRunning
  | .leaving => true
  | .left => true
  | .finished exit => exit == .completed
  | _ => false

/-- Whether there is nothing to carry out and nothing to tell, and the loop goes on or a panic is
seen to. -/
def isBare (stage : Stage) : Bool :=
  stage.commands.isEmpty && stage.learnt.isEmpty && !stage.isLast

/-- Whether a panic was seen to, or the run has ended. -/
def isOver : Stage → Bool
  | .panicked => true
  | .finished _ => true
  | _ => false

end Stage

/-! ### What leaves the cleanup alone -/

/-- What the cleanup works with is left as it is, and no session is taken up. -/
structure Kept (before after : Reactor φ) : Prop where
  core : after.core = before.core
  tempFiles : after.tempFiles = before.tempFiles
  files : after.files = before.files
  scrubbed : after.scrubbed = before.scrubbed
  attached : after.attached → before.attached

/-- **A calm change**: nothing is cleaned up, ordered or learnt, no order to clean up is dropped
but for a panic, and a scrub stands behind the end of the session as it did. -/
structure Calm (before after : Reactor φ) : Prop extends Kept before after where
  orders : after.stage.commands <:+ before.stage.commands
  kept : .scrubTempFiles ∈ before.stage.commands →
    .scrubTempFiles ∈ after.stage.commands ∨ .panic ∈ before.stage.commands
  guarded : Guarded before.attached before.stage.commands →
    Guarded after.attached after.stage.commands
  learnt : after.stage.learnt ⊆ before.stage.learnt
  last : after.stage.isLast → before.stage.isLast ∧
    (.panic ∈ before.stage.commands → .panic ∈ after.stage.commands)
  ended : before.stage.isOver → after.stage.isOver

theorem Kept.gone {before after : Reactor φ} (kept : Kept before after)
    (gone : before.attached = false) : after.attached = false := by
  rw [Bool.eq_false_iff] at gone ⊢
  exact fun held => gone (kept.attached held)

/-- A change that leaves the stage as it is. -/
theorem Kept.calm_same {before after : Reactor φ} (kept : Kept before after)
    (stage : after.stage = before.stage) : Calm before after := by
  refine ⟨kept, ?_, ?_, ?_, ?_, ?_, ?_⟩
  · simp [stage]
  · rw [stage]
    exact Or.inl
  · rw [stage]
    exact Shutdown.guarded_mono kept.attached
  · rw [stage]
    exact List.Subset.refl _
  · rw [stage]
    exact fun last => ⟨last, id⟩
  · rw [stage]
    exact id

/-- A change between stages with nothing to carry out. -/
theorem Kept.calm_turn {before after : Reactor φ} (kept : Kept before after) {stage : Stage}
    (at_ : before.stage = stage) (bare : stage.isBare) (begun : stage.isOver = false)
    (clear : after.stage.isBare) : Calm before after := by
  simp only [Stage.isBare, Bool.and_eq_true, List.isEmpty_iff, Bool.not_eq_true'] at bare clear
  obtain ⟨⟨idle, -⟩, -⟩ := bare
  obtain ⟨⟨ordered, learnt⟩, early⟩ := clear
  subst at_
  refine ⟨kept, ?_, ?_, ?_, ?_, ?_, ?_⟩
  · rw [ordered]
    exact List.nil_suffix
  · simp [idle]
  · rw [ordered]
    exact fun _ => trivial
  · simp [learnt]
  · simp [early]
  · simp [begun]

/-- A change between stages with the same commands. -/
theorem Kept.calm_on {before after : Reactor φ} (kept : Kept before after) {stage : Stage}
    (at_ : before.stage = stage) (ordered : after.stage.commands = stage.commands)
    (learnt : after.stage.learnt = []) (last : after.stage.isLast = stage.isLast)
    (ended : stage.isOver → after.stage.isOver) : Calm before after := by
  subst at_
  refine ⟨kept, ?_, ?_, ?_, ?_, ?_, ended⟩
  · simp [ordered]
  · rw [ordered]
    exact Or.inl
  · rw [ordered]
    exact Shutdown.guarded_mono kept.attached
  · simp [learnt]
  · rw [ordered, last]
    exact fun last => ⟨last, id⟩

/-- A change that carries out a command and is neither a scrub nor a panic. -/
theorem Kept.calm_next {before after : Reactor φ} (kept : Kept before after) {command : Command}
    {rest : List Command} {keepRunning : Bool}
    (at_ : before.stage = .executing (command :: rest) keepRunning)
    (other : command ≠ .scrubTempFiles ∧ command ≠ .panic)
    (next : after.stage = .executing rest keepRunning ∨
      after.stage = .realigning rest keepRunning)
    (guarded : Guarded before.attached (command :: rest) → Guarded after.attached rest) :
    Calm before after := by
  have orders : after.stage.commands = rest := by rcases next with next | next <;> rw [next] <;> rfl
  have learnt : after.stage.learnt = [] := by rcases next with next | next <;> rw [next] <;> rfl
  have last : after.stage.isLast = !keepRunning := by
    rcases next with next | next <;> rw [next] <;> rfl
  have before_ : before.stage.commands = command :: rest := by rw [at_]; rfl
  refine ⟨kept, ?_, ?_, ?_, ?_, ?_, ?_⟩
  · rw [orders, before_]
    exact List.suffix_cons command rest
  · rw [orders, before_, List.mem_cons]
    rintro (same | later)
    · exact absurd same.symm other.1
    · exact Or.inl later
  · rw [orders, before_]
    exact guarded
  · simp [learnt]
  · rw [orders, before_, last, at_, List.mem_cons]
    refine fun ends => ⟨ends, ?_⟩
    rintro (same | later)
    · exact absurd same.symm other.2
    · exact later
  · rw [at_]
    intro ended
    cases ended

/-! ### Which changes are calm -/

theorem kept_goto (reactor : Reactor φ) (stage : Stage) : Kept reactor (reactor.goto stage) :=
  ⟨rfl, rfl, rfl, rfl, id⟩

theorem kept_sync (reactor : Reactor φ) (stage : Stage) : Kept reactor (reactor.sync.goto stage) :=
  ⟨rfl, rfl, rfl, rfl, id⟩

theorem kept_await (reactor : Reactor φ) (deadline : Nat) :
    Kept reactor (reactor.await deadline) := by
  rw [await_eq]
  exact ⟨rfl, rfl, rfl, rfl, id⟩

theorem kept_serve (reactor : Reactor φ) (wake : Wake) : Kept reactor (reactor.serve wake) := by
  rw [serve_eq]
  exact ⟨rfl, rfl, rfl, rfl, id⟩

theorem Kept.goto {before after : Reactor φ} (kept : Kept before after) (stage : Stage) :
    Kept before (after.goto stage) :=
  ⟨kept.core, kept.tempFiles, kept.files, kept.scrubbed, kept.attached⟩

/-- Something is done with the session. -/
theorem kept_onSession (reactor : Reactor φ) {act : Session Bus.Scripted → Session Bus.Scripted}
    (change : ∀ session, Session.Change session (act session)) :
    Kept reactor (reactor.onSession act) :=
  ⟨rfl, rfl, rfl, rfl, any_attached_of_rel (rel_map change reactor.session)⟩

theorem kept_detach (reactor : Reactor φ) : Kept reactor (reactor.onSession Session.detach) :=
  kept_onSession reactor fun session => Or.inl (Session.quiet_detach session)

theorem attached_onSession_detach (reactor : Reactor φ) :
    (reactor.onSession Session.detach).attached = false := by
  unfold attached onSession
  cases reactor.session with
  | none => rfl
  | some session => exact Session.attached_detach session

theorem kept_reportDone (reactor : Reactor φ) (status : ChildStatus) :
    Kept reactor (reactor.onSession (·.reportDone status)) :=
  kept_onSession reactor fun _ => Or.inr ⟨status, rfl⟩

theorem kept_receiveNext (reactor : Reactor φ) (learnt : List SessionEvent) :
    Kept reactor (reactor.receiveNext learnt) := by
  have attached := any_attached_of_rel (session_receiveNext reactor learnt)
  rw [receiveNext_eq]
  exact ⟨rfl, rfl, rfl, rfl, attached⟩

/-- What was learnt once a frame was received. -/
theorem learnt_receiveNext {reactor : Reactor φ} {learnt : List SessionEvent}
    {event : SessionEvent} (known : event ∈ (reactor.receiveNext learnt).stage.learnt) :
    event ∈ learnt ∨ ∃ session, reactor.session = some session ∧
      session.receiveNext.2.1 = some event ∧
      (reactor.receiveNext learnt).attached = session.receiveNext.2.2.attached := by
  unfold receiveNext at known ⊢
  split at known
  · exact Or.inl known
  · rename_i session held
    have grown : event ∈ learnt ++ session.receiveNext.2.1.toList := by
      dsimp only at known
      split at known <;> exact known
    rcases List.mem_append.mp grown with before | now
    · exact Or.inl before
    · exact Or.inr ⟨session, held, by simpa using now, rfl⟩

/-! ### What telling the shutdown does -/

/-- Where what was learnt takes the shutdown. -/
theorem phase_learn (reactor : Reactor φ) (event : SessionEvent) :
    (reactor.learn event).core.phase = match event with
      | .doneReplied => reactor.core.phase.advance .replied
      | .doneFailed => reactor.core.phase.advance .panicCleanup
      | .detached => reactor.core.phase := by
  cases event <;> rfl

theorem learn_finalLinger (reactor : Reactor φ) (event : SessionEvent) :
    (reactor.learn event).core.phase = .finalLinger ↔ reactor.core.phase = .finalLinger := by
  rw [phase_learn]
  cases event <;> cases reactor.core.phase <;> decide

theorem learn_replied {reactor : Reactor φ} {event : SessionEvent}
    (replied : (reactor.learn event).core.phase = .replied) :
    reactor.core.phase = .replied ∨ event = .doneReplied := by
  rw [phase_learn] at replied
  cases event with
  | doneReplied => exact Or.inr rfl
  | detached => exact Or.inl replied
  | doneFailed => revert replied; cases reactor.core.phase <;> decide

theorem learn_panicCleanup {reactor : Reactor φ} {event : SessionEvent}
    (lost : (reactor.learn event).core.phase = .panicCleanup) :
    reactor.core.phase = .panicCleanup ∨ event = .doneFailed := by
  rw [phase_learn] at lost
  cases event with
  | doneFailed => exact Or.inr rfl
  | detached => exact Or.inl lost
  | doneReplied => revert lost; cases reactor.core.phase <;> decide

variable [FileSystem φ]

theorem kept_giveNotice (reactor : Reactor φ) : Kept reactor reactor.giveNotice :=
  ⟨rfl, rfl, rfl, rfl, any_attached_of_rel (session_giveNotice reactor)⟩

/-! ### One event -/

/-- **What an event does to the cleanup.** -/
inductive Turn (reactor : Reactor φ) : Event → Reactor φ → Prop where
  | calm {event : Event} {next : Reactor φ} (calm : Calm reactor next) : Turn reactor event next
  | receive {learnt : List SessionEvent} (stage : reactor.stage = .receiving learnt) :
    Turn reactor .act (reactor.receiveNext learnt)
  | learn {event : SessionEvent} {rest : List SessionEvent}
    (stage : reactor.stage = .learning (event :: rest)) :
    Turn reactor .act ((reactor.learn event).goto (.learning rest))
  | tick {exited urgent : Bool} (stage : reactor.stage = .ticking exited urgent) :
    Turn reactor .act (reactor.tick exited urgent)
  | scrub {rest : List Command} {keepRunning : Bool}
    (stage : reactor.stage = .executing (.scrubTempFiles :: rest) keepRunning) :
    Turn reactor .act (reactor.scrub.goto (.executing rest keepRunning))
  | abandon (stage : reactor.stage = .panicking) (gone : reactor.attached = false) :
    Turn reactor .act (reactor.scrub.goto .panicked)

/-- A command that is no scrub is carried out. -/
theorem calm_execute {reactor : Reactor φ} {command : Command} {rest : List Command}
    {keepRunning : Bool} (stage : reactor.stage = .executing (command :: rest) keepRunning)
    (other : command ≠ .scrubTempFiles) :
    Calm reactor (reactor.execute command rest keepRunning) := by
  cases command with
  | sendDone status =>
    have kept := kept_reportDone reactor status
    exact (kept.goto _).calm_next stage ⟨other, by simp⟩ (Or.inr rfl)
      (Shutdown.guarded_mono kept.attached)
  | detachSession =>
    refine ((kept_detach reactor).goto _).calm_next stage ⟨other, by simp⟩
      (Or.inr rfl) fun _ => ?_
    rw [attached_goto, attached_onSession_detach]
    exact Shutdown.guarded_false rest
  | scrubTempFiles => exact absurd rfl other
  | clearUrgent =>
    have kept : Kept reactor (reactor.execute .clearUrgent rest keepRunning) :=
      ⟨rfl, rfl, rfl, rfl, id⟩
    exact kept.calm_next stage ⟨other, by simp⟩ (Or.inl rfl) id
  | finalLinger => exact (kept_goto reactor _).calm_next stage ⟨other, by simp⟩ (Or.inl rfl) id
  | panic =>
    have orders : reactor.stage.commands = .panic :: rest := by rw [stage]; rfl
    refine ⟨kept_goto reactor _, List.nil_suffix, fun _ => Or.inr ?_, fun _ => trivial,
      List.nil_subset _, fun ends => ?_, fun ended => ?_⟩
    · rw [orders]
      exact List.mem_cons_self
    · cases ends
    · rw [stage] at ended
      cases ended

theorem turn_step (reactor : Reactor φ) : Turn reactor .act reactor.step := by
  cases stage : reactor.stage with
  | top =>
    simp only [step, stage]
    split <;> exact .calm ((kept_goto reactor _).calm_turn stage rfl rfl rfl)
  | pollExited =>
    simp only [step, stage]
    split <;> exact .calm ((kept_goto reactor _).calm_turn stage rfl rfl rfl)
  | pollUrgent =>
    simp only [step, stage]
    exact .calm ((kept_goto reactor _).calm_turn stage rfl rfl rfl)
  | poll short =>
    simp only [step, stage]
    exact .calm ((kept_goto reactor _).calm_turn stage rfl rfl rfl)
  | waiting deadline =>
    simp only [step, stage]
    refine .calm ((kept_await reactor deadline).calm_turn stage rfl rfl ?_)
    rcases stage_await reactor deadline with same | ⟨wake, wakes⟩
    · rw [same, stage]
      rfl
    · rw [wakes]
      rfl
  | serving wake =>
    simp only [step, stage]
    exact .calm (((kept_serve reactor wake).goto _).calm_turn stage rfl rfl rfl)
  | opening =>
    simp only [step, stage]
    split <;> exact .calm ((kept_goto reactor _).calm_turn stage rfl rfl rfl)
  | receiving learnt =>
    simp only [step, stage]
    exact .receive stage
  | learning learnt =>
    cases learnt with
    | nil =>
      simp only [step, stage]
      exact .calm ((kept_sync reactor _).calm_turn stage rfl rfl rfl)
    | cons event rest =>
      simp only [step, stage]
      exact .learn stage
  | recheck =>
    simp only [step, stage]
    split <;> exact .calm ((kept_goto reactor _).calm_turn stage rfl rfl rfl)
  | noticing =>
    simp only [step, stage]
    exact .calm ((kept_giveNotice reactor).calm_turn stage rfl rfl rfl)
  | noticed =>
    simp only [step, stage]
    exact .calm ((kept_sync reactor _).calm_turn stage rfl rfl rfl)
  | seeExited =>
    simp only [step, stage]
    exact .calm ((kept_goto reactor _).calm_turn stage rfl rfl rfl)
  | seeUrgent exited =>
    simp only [step, stage]
    exact .calm ((kept_goto reactor _).calm_turn stage rfl rfl rfl)
  | ticking exited urgent =>
    simp only [step, stage]
    exact .tick stage
  | publishing answer =>
    simp only [step, stage]
    have kept : Kept reactor
        { reactor with
          signals := { reactor.signals with phase := reactor.core.phase }
          stage := .executing answer.commands answer.keepRunning } := ⟨rfl, rfl, rfl, rfl, id⟩
    exact .calm (kept.calm_on stage rfl rfl rfl fun ended => by cases ended)
  | executing commands keepRunning =>
    cases commands with
    | nil =>
      cases keepRunning with
      | true =>
        simp only [step, stage]
        exact .calm ((kept_goto reactor _).calm_turn stage rfl rfl rfl)
      | false =>
        simp only [step, stage]
        exact .calm ((kept_goto reactor _).calm_on stage rfl rfl rfl fun ended => by cases ended)
    | cons command rest =>
      simp only [step, stage]
      by_cases scrubs : command = .scrubTempFiles
      · subst scrubs
        exact .scrub stage
      · exact .calm (calm_execute stage scrubs)
  | realigning rest keepRunning =>
    simp only [step, stage]
    exact .calm ((kept_sync reactor _).calm_on stage rfl rfl rfl fun ended => by cases ended)
  | leaving =>
    simp only [step, stage]
    have kept := (kept_detach reactor).goto .left
    exact .calm (kept.calm_on stage rfl rfl rfl fun ended => by cases ended)
  | left =>
    simp only [step, stage]
    exact .calm ((kept_sync reactor _).calm_on stage rfl rfl rfl fun ended => by cases ended)
  | panicking =>
    simp only [step, stage]
    unfold panic
    split
    · exact .calm (((kept_reportDone reactor .failed).goto _).calm_turn stage rfl rfl rfl)
    · rename_i gone
      exact .abandon stage (by simpa using gone)
  | panicDetaching =>
    simp only [step, stage]
    exact .calm (((kept_detach reactor).goto _).calm_turn stage rfl rfl rfl)
  | panicked =>
    simp only [step, stage]
    exact .calm ((kept_sync reactor _).calm_on stage rfl rfl rfl fun _ => rfl)
  | finished exit =>
    rw [step_finished stage]
    exact .calm ((Kept.mk rfl rfl rfl rfl id).calm_same rfl)

/-- What happens outside the reactor leaves its stage as well, unless it ends the process. -/
theorem kept_outside {reactor : Reactor φ} {event : Event} (outside : event ≠ .act)
    (alive : (reactor.apply event).stage ≠ .finished .atOnce) :
    Kept reactor (reactor.apply event) ∧ (reactor.apply event).stage = reactor.stage := by
  have outside := outside_apply reactor outside
  generalize reactor.apply event = next at outside alive
  cases outside with
  | exit files => exact absurd rfl alive
  | arrive items =>
    exact ⟨kept_onSession reactor fun session =>
      Or.inl (Session.quiet_arrive session items), rfl⟩
  | ended | flags | busReady | child | elapse => exact ⟨⟨rfl, rfl, rfl, rfl, id⟩, rfl⟩

/-- **What any event does to the cleanup,** unless it ends the process. -/
theorem turn_apply {reactor : Reactor φ} {event : Event}
    (alive : (reactor.apply event).stage ≠ .finished .atOnce) :
    Turn reactor event (reactor.apply event) := by
  by_cases outside : event = .act
  · rw [outside, apply_act]
    exact turn_step reactor
  · obtain ⟨kept, same⟩ := kept_outside outside alive
    exact .calm (kept.calm_same same)

end LaunchSupervisor.Reactor
