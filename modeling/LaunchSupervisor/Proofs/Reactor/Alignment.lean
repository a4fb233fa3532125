import LaunchSupervisor.Files.Tree
import LaunchSupervisor.Proofs.Reactor.Preemption
import LaunchSupervisor.Proofs.Shutdown.Safety
import LaunchSupervisor.Reactor.Outage
import LaunchSupervisor.Supervisor

/-!
**What handlers see is what the reactor is at.** Handlers go by two things that the reactor
publishes: whether the session is held, and the phase of the shutdown. Both may lag behind within an
iteration. `InStep` says at which stages they do not, and `Ahead` that the shutdown is never behind
what was published of it; every occurrence keeps both, outages and panics among them.

* `InStep.act`, `Ahead.act`, `unmoved_outside`: what one event does.
* `published_undergo`: a published phase is never taken back.
* `inStep_live`: both hold for life.
* `published_in_step`: what that means at the top of an iteration and at the end of a run.
-/

namespace LaunchSupervisor.Reactor

variable {φ : Type}

/-! ### Stages at which nothing lags behind -/

namespace Stage

/-- Whether what handlers see of the session is in line with it: it was brought into line after all
that could have ended it. -/
def isAligned : Stage → Bool
  | .opening => false
  | .receiving _ => false
  | .learning _ => false
  | .noticed => false
  | .realigning _ _ => false
  | .left => false
  | .panicDetaching => false
  | .panicked => false
  | .finished .atOnce => false
  | _ => true

/-- Whether the phase was published that the shutdown is in. -/
def isCurrent : Stage → Bool
  | .top => true
  | .pollExited => true
  | .pollUrgent => true
  | .poll _ => true
  | .waiting _ => true
  | .serving _ => true
  | .opening => true
  | .receiving _ => true
  | .executing _ _ => true
  | .realigning _ _ => true
  | .leaving => true
  | .left => true
  | .finished .completed => true
  | _ => false

/-- Whether the session was given up for good, at the end of a run. -/
def isGone : Stage → Bool
  | .left => true
  | .panicked => true
  | .finished .completed => true
  | .finished .panicked => true
  | _ => false

end Stage

/-- **The reactor is in step** with what it publishes. -/
structure InStep (reactor : Reactor φ) : Prop where
  aligned : reactor.stage.isAligned →
    reactor.signals.attached = reactor.attached ∧ (reactor.watching → reactor.attached)
  current : reactor.stage.isCurrent → reactor.signals.phase = reactor.core.phase
  gone : reactor.stage.isGone → reactor.attached = false

/-- **The shutdown is ahead** of what was published of it, and the loop is left in the last phase or
for a panic. -/
structure Ahead (reactor : Reactor φ) : Prop where
  published : reactor.signals.phase ≤ reactor.core.phase
  last : reactor.stage.isLast →
    reactor.core.phase = .finalLinger ∨ .panic ∈ reactor.stage.commands

/-- Whether something that happens publishes in the reactor's place. -/
def Occurrence.publishes : Occurrence → Bool
  | .event (.handler call) => call.publishes
  | .event (.access call) => call.publishes
  | _ => false

variable {reactor : Reactor φ}

namespace InStep

theorem aligned_at (inStep : InStep reactor) {stage : Stage} (here : reactor.stage = stage)
    (aligned : stage.isAligned) :
    reactor.signals.attached = reactor.attached ∧ (reactor.watching → reactor.attached) :=
  inStep.aligned (by rwa [here])

theorem current_at (inStep : InStep reactor) {stage : Stage} (here : reactor.stage = stage)
    (current : stage.isCurrent) : reactor.signals.phase = reactor.core.phase :=
  inStep.current (by rwa [here])

/-- The reactor moves on and does nothing else. -/
theorem goto (inStep : InStep reactor) {stage next : Stage} (here : reactor.stage = stage)
    (aligned : next.isAligned → stage.isAligned) (current : next.isCurrent → stage.isCurrent)
    (gone : next.isGone = false) : InStep (reactor.goto next) where
  aligned at_ := inStep.aligned_at here (aligned at_)
  current at_ := inStep.current_at here (current at_)
  gone at_ := absurd at_ (Bool.eq_false_iff.mp gone)

/-- The reactor brings what handlers see into line with the session. -/
theorem sync (inStep : InStep reactor) {stage next : Stage} (here : reactor.stage = stage)
    (current : next.isCurrent → stage.isCurrent) (gone : next.isGone → stage.isGone) :
    InStep (reactor.sync.goto next) where
  aligned _ := ⟨attached_sync reactor, watching_sync⟩
  current at_ := inStep.current_at here (current at_)
  gone at_ := inStep.gone (by rw [here]; exact gone at_)

/-- Nothing is claimed while a stage is passed through. -/
theorem of_between (aligned : reactor.stage.isAligned = false)
    (current : reactor.stage.isCurrent = false) (gone : reactor.stage.isGone = false) :
    InStep reactor :=
  ⟨fun at_ => absurd at_ (Bool.eq_false_iff.mp aligned),
    fun at_ => absurd at_ (Bool.eq_false_iff.mp current),
    fun at_ => absurd at_ (Bool.eq_false_iff.mp gone)⟩

/-- The session may be ahead of what handlers see of it, the phase is not. -/
theorem of_current (aligned : reactor.stage.isAligned = false) (gone : reactor.stage.isGone = false)
    (current : reactor.signals.phase = reactor.core.phase) : InStep reactor :=
  ⟨fun at_ => absurd at_ (Bool.eq_false_iff.mp aligned), fun _ => current,
    fun at_ => absurd at_ (Bool.eq_false_iff.mp gone)⟩

/-- Handlers see whether the session is held. -/
theorem of_aligned
    (aligned : reactor.signals.attached = reactor.attached ∧
      (reactor.watching → reactor.attached)) (gone : reactor.stage.isGone = false)
    (current : reactor.stage.isCurrent → reactor.signals.phase = reactor.core.phase) :
    InStep reactor :=
  ⟨fun _ => aligned, current, fun at_ => absurd at_ (Bool.eq_false_iff.mp gone)⟩

end InStep

/-- **What the reactor is given is in step** once it has published whether the session is held. -/
theorem inStep_start {setup : Setup φ} (fresh : setup.signals.phase = .starting) :
    InStep (start setup) ∧ Ahead (start setup) := by
  have published : (start setup).signals.phase = (start setup).core.phase := fresh
  refine ⟨⟨fun _ => ⟨attached_start setup, watching_sync⟩, fun _ => published,
    Bool.false_ne_true.elim⟩, ?_, Bool.false_ne_true.elim⟩
  rw [published]
  exact Nat.le_refl _

variable [FileSystem φ]

/-! ### An action of the reactor -/

/-- A command of the shutdown is carried out. -/
theorem InStep.execute (inStep : InStep reactor) {command : Shutdown.Command}
    {rest : List Shutdown.Command} {keepRunning : Bool}
    (stage : reactor.stage = .executing (command :: rest) keepRunning) :
    InStep (reactor.execute command rest keepRunning) := by
  have aligned := inStep.aligned_at stage rfl
  have current := inStep.current_at stage rfl
  cases command with
  | sendDone status => exact .of_current rfl rfl current
  | detachSession => exact .of_current rfl rfl current
  | scrubTempFiles =>
    simp only [Reactor.execute]
    rw [scrub_eq]
    exact .of_aligned aligned rfl fun _ => current
  | clearUrgent => exact .of_aligned aligned rfl fun _ => current
  | panic => exact .of_aligned aligned rfl Bool.false_ne_true.elim
  | finalLinger => exact .of_aligned aligned rfl fun _ => current

/-- **An action of the reactor keeps it in step.** -/
theorem InStep.act (inStep : InStep reactor) : InStep reactor.step := by
  cases stage : reactor.stage with
  | top =>
    simp only [step, stage]
    split <;> exact inStep.goto stage (fun _ => rfl) (fun _ => rfl) rfl
  | pollExited =>
    simp only [step, stage]
    split <;> exact inStep.goto stage (fun _ => rfl) (fun _ => rfl) rfl
  | pollUrgent =>
    simp only [step, stage]
    exact inStep.goto stage (fun _ => rfl) (fun _ => rfl) rfl
  | poll short =>
    simp only [step, stage]
    exact inStep.goto stage (fun _ => rfl) (fun _ => rfl) rfl
  | waiting deadline =>
    have aligned := inStep.aligned_at stage rfl
    have current := inStep.current_at stage rfl
    simp only [step, stage]
    rw [await_eq]
    refine .of_aligned aligned ?_ fun _ => current
    rcases stage_await reactor deadline with same | ⟨wake, woken⟩
    · rw [same, stage]
      rfl
    · rw [woken]
      rfl
  | serving wake =>
    have current := inStep.current_at stage rfl
    simp only [step, stage]
    rw [serve_eq]
    exact .of_current rfl rfl current
  | opening =>
    simp only [step, stage]
    split <;> exact inStep.goto stage Bool.false_ne_true.elim (fun _ => rfl) rfl
  | receiving learnt =>
    have current := inStep.current_at stage rfl
    simp only [step, stage]
    rw [receiveNext_eq]
    obtain ⟨more, next | next⟩ := stage_receiveNext reactor learnt <;> rw [next]
    · exact .of_current rfl rfl current
    · exact .of_between rfl rfl rfl
  | learning learnt =>
    cases learnt with
    | nil =>
      simp only [step, stage]
      exact inStep.sync stage Bool.false_ne_true.elim Bool.false_ne_true.elim
    | cons event rest =>
      simp only [step, stage]
      exact .of_between rfl rfl rfl
  | recheck =>
    simp only [step, stage]
    split <;> exact inStep.goto stage (fun _ => rfl) Bool.false_ne_true.elim rfl
  | noticing =>
    simp only [step, stage]
    exact .of_between rfl rfl rfl
  | noticed =>
    simp only [step, stage]
    exact inStep.sync stage Bool.false_ne_true.elim Bool.false_ne_true.elim
  | seeExited =>
    simp only [step, stage]
    exact inStep.goto stage (fun _ => rfl) Bool.false_ne_true.elim rfl
  | seeUrgent exited =>
    simp only [step, stage]
    exact inStep.goto stage (fun _ => rfl) Bool.false_ne_true.elim rfl
  | ticking exited urgent =>
    have aligned := inStep.aligned_at stage rfl
    simp only [step, stage]
    exact .of_aligned aligned rfl Bool.false_ne_true.elim
  | publishing answer =>
    have aligned := inStep.aligned_at stage rfl
    simp only [step, stage]
    exact .of_aligned aligned rfl fun _ => rfl
  | executing commands keepRunning =>
    cases commands with
    | nil =>
      cases keepRunning <;> simp only [step, stage] <;>
        exact inStep.goto stage (fun _ => rfl) (fun _ => rfl) rfl
    | cons command rest =>
      simp only [step, stage]
      exact inStep.execute stage
  | realigning rest keepRunning =>
    simp only [step, stage]
    exact inStep.sync stage (fun _ => rfl) Bool.false_ne_true.elim
  | leaving =>
    have current := inStep.current_at stage rfl
    simp only [step, stage]
    exact ⟨Bool.false_ne_true.elim, fun _ => current,
      fun _ => attached_onSession_detach reactor⟩
  | left =>
    simp only [step, stage]
    exact inStep.sync stage (fun _ => rfl) (fun _ => rfl)
  | panicking =>
    simp only [step, stage, panic]
    split
    · exact .of_between rfl rfl rfl
    · rename_i gone
      rw [scrub_eq]
      exact ⟨Bool.false_ne_true.elim, Bool.false_ne_true.elim,
        fun _ => Bool.eq_false_iff.mpr gone⟩
  | panicDetaching =>
    simp only [step, stage]
    exact ⟨Bool.false_ne_true.elim, Bool.false_ne_true.elim,
      fun _ => attached_onSession_detach reactor⟩
  | panicked =>
    simp only [step, stage]
    exact inStep.sync stage Bool.false_ne_true.elim (fun _ => rfl)
  | finished exit =>
    rw [step_finished stage]
    exact inStep

/-- The phase of the shutdown never goes back. -/
theorem phase_le_act (reactor : Reactor φ) : reactor.core.phase ≤ reactor.step.core.phase := by
  have turn := turn_step reactor
  generalize reactor.step = next at turn
  cases turn with
  | calm calm => rw [calm.core]; exact Nat.le_refl _
  | @receive learnt stage => rw [(kept_receiveNext reactor learnt).core]; exact Nat.le_refl _
  | @learn event rest stage =>
    show _ ≤ (reactor.learn event).core.phase
    rw [phase_learn]
    cases event with
    | doneReplied => exact Phase.le_advance _ _
    | doneFailed => exact Phase.le_advance _ _
    | detached => exact Nat.le_refl _
  | tick stage => exact Shutdown.Core.phase_le_step reactor.core (.tick _)
  | scrub stage => rw [scrub_eq]; exact Nat.le_refl _
  | abandon stage => rw [scrub_eq]; exact Nat.le_refl _

/-- **An action of the reactor leaves the shutdown ahead.** -/
theorem Ahead.act (ahead : Ahead reactor) : Ahead reactor.step := by
  constructor
  · rcases published_step reactor with same | now
    · rw [same]
      exact Nat.le_trans ahead.published (phase_le_act reactor)
    · rw [now]
      exact Nat.le_refl _
  · have turn := turn_step reactor
    generalize reactor.step = next at turn
    intro ends
    cases turn with
    | calm calm =>
      obtain ⟨last, panics⟩ := calm.last ends
      rw [calm.core]
      exact (ahead.last last).imp_right panics
    | @receive learnt stage =>
      obtain ⟨more, next | next⟩ := stage_receiveNext reactor learnt <;> rw [next] at ends <;>
        cases ends
    | learn stage => cases ends
    | tick stage =>
      exact Shutdown.Core.tick_stops (by simpa [Stage.isLast, Reactor.tick] using ends)
    | @scrub rest keepRunning stage =>
      have before := ahead.last (by rw [stage]; exact ends)
      rw [stage] at before
      rw [scrub_eq]
      refine before.imp_right fun panics => ?_
      rcases List.mem_cons.mp panics with same | later
      · cases same
      · exact later
    | abandon stage => cases ends

/-! ### What happens outside the reactor -/

/-- What was published, what it is about and what is waited for are left as they are. -/
structure Unmoved (before after : Reactor φ) : Prop where
  core : after.core = before.core
  phase : after.signals.phase = before.signals.phase
  shown : after.signals.attached = before.signals.attached
  attached : after.attached = before.attached
  watching : after.watching = before.watching

omit [FileSystem φ] in
theorem attached_arrive (reactor : Reactor φ) (items : List Bus.Taken) :
    (reactor.arrive items).attached = reactor.attached := by
  unfold arrive onSession attached
  cases reactor.session <;> rfl

/-- **Nothing outside the reactor moves any of it**, but for what publishes in its place; at most
the process ends. -/
theorem unmoved_outside (reactor : Reactor φ) {event : Event} (outside : event ≠ .act)
    (inside : (Occurrence.event event).publishes = false) :
    Unmoved reactor (reactor.apply event) ∧
      ((reactor.apply event).stage = reactor.stage ∨
        (reactor.apply event).stage = .finished .atOnce) := by
  refine ⟨?_, stage_outside reactor outside⟩
  have outside := outside_apply reactor outside
  generalize reactor.apply event = next at outside
  cases outside with
  | @flags _ call calls wake =>
    have other : call.publishes = false := by rcases calls with rfl | rfl <;> exact inside
    obtain ⟨phase, shown⟩ := reactor.signals.published_apply other
    exact ⟨rfl, phase, shown, rfl, rfl⟩
  | @exit call files =>
    obtain ⟨phase, shown⟩ := reactor.signals.published_apply inside
    exact ⟨rfl, phase, shown, rfl, rfl⟩
  | arrive items => exact ⟨rfl, rfl, rfl, attached_arrive reactor items, rfl⟩
  | ended | busReady | child | elapse => exact ⟨rfl, rfl, rfl, rfl, rfl⟩

omit [FileSystem φ] in
/-- What is left as it is stays in step. -/
theorem InStep.unmoved (inStep : InStep reactor) {next : Reactor φ}
    (unmoved : Unmoved reactor next) (stage : next.stage = reactor.stage) : InStep next := by
  constructor
  · rw [stage, unmoved.shown, unmoved.attached, unmoved.watching]
    exact inStep.aligned
  · rw [stage, unmoved.phase, unmoved.core]
    exact inStep.current
  · rw [stage, unmoved.attached]
    exact inStep.gone

/-! ### Anything that happens -/

omit [FileSystem φ] in
/-- A source that is lost takes neither the shutdown nor what was published with it. -/
theorem signals_core_lose (reactor : Reactor φ) (source : Source) :
    (reactor.lose source).signals = reactor.signals ∧
      (reactor.lose source).core = reactor.core := by
  cases source <;> exact ⟨rfl, rfl⟩

omit [FileSystem φ] in
/-- **What an outage does**: nothing, or the wait ends with what was published as it was. -/
theorem fail_cases (reactor : Reactor φ) (source : Source) :
    reactor.fail source = reactor ∨
      (∃ deadline, reactor.stage = .waiting deadline) ∧
        (reactor.fail source).stage = .opening ∧
        (reactor.fail source).signals = reactor.signals ∧
        (reactor.fail source).core = reactor.core := by
  unfold fail
  split
  · rename_i deadline waits
    split
    · exact Or.inr ⟨⟨deadline, waits⟩, rfl, signals_core_lose reactor source⟩
    · exact Or.inl rfl
  · exact Or.inl rfl

/-- **Anything that happens keeps the reactor in step**, unless it publishes in its place. -/
theorem InStep.undergo (inStep : InStep reactor) {occurrence : Occurrence}
    (inside : occurrence.publishes = false) : InStep (reactor.undergo occurrence) := by
  cases occurrence with
  | event event =>
    show InStep (reactor.apply event)
    by_cases acts : event = .act
    · rw [acts, apply_act]
      exact inStep.act
    · obtain ⟨unmoved, same | ended⟩ := unmoved_outside reactor acts inside
      · exact inStep.unmoved unmoved same
      · exact .of_between (by rw [ended]; rfl) (by rw [ended]; rfl) (by rw [ended]; rfl)
  | outage source =>
    show InStep (reactor.fail source)
    rcases fail_cases reactor source with same | ⟨⟨deadline, waits⟩, stage, signals, core⟩
    · rw [same]
      exact inStep
    · refine .of_current (by rw [stage]; rfl) (by rw [stage]; rfl) ?_
      rw [signals, core]
      exact inStep.current_at waits rfl

/-- **Anything that happens leaves the shutdown ahead.** -/
theorem Ahead.undergo (ahead : Ahead reactor) {occurrence : Occurrence}
    (inside : occurrence.publishes = false) : Ahead (reactor.undergo occurrence) := by
  cases occurrence with
  | event event =>
    show Ahead (reactor.apply event)
    by_cases acts : event = .act
    · rw [acts, apply_act]
      exact ahead.act
    · obtain ⟨unmoved, stage⟩ := unmoved_outside reactor acts inside
      constructor
      · rw [unmoved.phase, unmoved.core]
        exact ahead.published
      · rcases stage with same | ended
        · rw [same, unmoved.core]
          exact ahead.last
        · rw [ended]
          exact Bool.false_ne_true.elim
  | outage source =>
    show Ahead (reactor.fail source)
    rcases fail_cases reactor source with same | ⟨-, stage, signals, core⟩
    · rw [same]
      exact ahead
    · constructor
      · rw [signals, core]
        exact ahead.published
      · rw [stage]
        exact Bool.false_ne_true.elim

/-- **A published phase is never taken back.** -/
theorem published_undergo (ahead : Ahead reactor) {occurrence : Occurrence}
    (inside : occurrence.publishes = false) :
    reactor.signals.phase ≤ (reactor.undergo occurrence).signals.phase := by
  cases occurrence with
  | event event =>
    show _ ≤ (reactor.apply event).signals.phase
    by_cases acts : event = .act
    · rw [acts, apply_act]
      rcases published_step reactor with same | now
      · rw [same]
        exact Nat.le_refl _
      · rw [now]
        exact Nat.le_trans ahead.published (phase_le_act reactor)
    · rw [(unmoved_outside reactor acts inside).1.phase]
      exact Nat.le_refl _
  | outage source =>
    show _ ≤ (reactor.fail source).signals.phase
    rcases fail_cases reactor source with same | ⟨-, -, signals, -⟩
    · rw [same]
      exact Nat.le_refl _
    · rw [signals]
      exact Nat.le_refl _

/-! ### A life -/

theorem live_concat (reactor : Reactor φ) (occurrences : List Occurrence)
    (occurrence : Occurrence) :
    reactor.live (occurrences ++ [occurrence]) = (reactor.live occurrences).undergo occurrence := by
  rw [live_append]
  rfl

/-- **The reactor stays in step for life, and the shutdown ahead.** -/
theorem inStep_live (inStep : InStep reactor) (ahead : Ahead reactor)
    {occurrences : List Occurrence}
    (inside : ∀ occurrence ∈ occurrences, occurrence.publishes = false) :
    InStep (reactor.live occurrences) ∧ Ahead (reactor.live occurrences) := by
  induction occurrences using List.reverseRecOn with
  | nil => exact ⟨inStep, ahead⟩
  | append_singleton occurrences occurrence ih =>
    obtain ⟨inStep, ahead⟩ :=
      ih fun earlier known => inside earlier (List.mem_append_left _ known)
    have last : occurrence.publishes = false := inside occurrence (by simp)
    rw [live_concat]
    exact ⟨inStep.undergo last, ahead.undergo last⟩

/-- The phases that are published one after the other never go back. -/
theorem published_live (inStep : InStep reactor) (ahead : Ahead reactor)
    {occurrences : List Occurrence}
    (inside : ∀ occurrence ∈ occurrences, occurrence.publishes = false) :
    reactor.signals.phase ≤ (reactor.live occurrences).signals.phase := by
  induction occurrences using List.reverseRecOn with
  | nil => exact Nat.le_refl _
  | append_singleton occurrences occurrence ih =>
    have before : ∀ earlier ∈ occurrences, earlier.publishes = false :=
      fun earlier known => inside earlier (List.mem_append_left _ known)
    rw [live_concat]
    exact Nat.le_trans (ih before)
      (published_undergo (inStep_live inStep ahead before).2 (inside occurrence (by simp)))

/-! ### The statement -/

/-- **What handlers see stays in step with the reactor.** At the top of every iteration they see
whether the session is held and the phase of the shutdown, and the bus is waited for only while the
session is held. The phases published are in order. At the end of a run, the loop left or a panic
seen to, the session is given up and they see that it is; and if the loop was left, the phase
published is the last one. -/
theorem published_in_step {setup : Setup φ} (fresh : setup.signals.phase = .starting)
    {occurrences : List Occurrence}
    (inside : ∀ occurrence ∈ occurrences, occurrence.publishes = false) :
    (((start setup).live occurrences).stage = .top →
        ((start setup).live occurrences).signals.attached =
            ((start setup).live occurrences).attached ∧
          (((start setup).live occurrences).watching →
            ((start setup).live occurrences).attached) ∧
          ((start setup).live occurrences).signals.phase =
            ((start setup).live occurrences).core.phase) ∧
      (∀ more : List Occurrence, (∀ occurrence ∈ more, occurrence.publishes = false) →
        ((start setup).live occurrences).signals.phase ≤
          ((start setup).live (occurrences ++ more)).signals.phase) ∧
      (∀ exit : Exit, ((start setup).live occurrences).stage = .finished exit →
        exit ≠ .atOnce → ((start setup).live occurrences).attached = false ∧
          ((start setup).live occurrences).signals.attached = false ∧
          ((start setup).live occurrences).watching = false) ∧
      (((start setup).live occurrences).stage = .finished .completed →
        ((start setup).live occurrences).signals.phase = .finalLinger) := by
  obtain ⟨first, before⟩ := inStep_start fresh
  obtain ⟨inStep, ahead⟩ := inStep_live first before inside
  simp only [live_append]
  generalize (start setup).live occurrences = reactor at inStep ahead ⊢
  refine ⟨fun top => ?_, fun more others => published_live inStep ahead others,
    fun exit ended returns => ?_, fun completed => ?_⟩
  · obtain ⟨shown, watched⟩ := inStep.aligned_at top rfl
    exact ⟨shown, watched, inStep.current_at top rfl⟩
  · have given : reactor.stage.isGone ∧ reactor.stage.isAligned := by
      rw [ended]
      cases exit with
      | completed | panicked => exact ⟨rfl, rfl⟩
      | atOnce => exact absurd rfl returns
    have gone := inStep.gone given.1
    obtain ⟨shown, watched⟩ := inStep.aligned given.2
    rw [gone] at shown watched
    exact ⟨gone, shown,
      Bool.eq_false_iff.mpr fun watching => Bool.false_ne_true (watched watching)⟩
  · rw [inStep.current_at completed rfl]
    rcases ahead.last (by rw [completed]; rfl) with last | panics
    · exact last
    · rw [completed] at panics
      cases panics

/-! ### A bus that fails -/

/-- A setup with a caller whose bus is waited for, for a command that is over. -/
def watchedSetup : Setup Tree :=
  { tunables := ({} : Settings).tunables
    signals := { childExited := true }
    session := some (Supervisor.introduce {} ⟨"dtsvc.9", 12, 34⟩)
    watchable := true
    files := .empty
    tempFiles := [.ofString "/tmp/a"] }

/-- The bus fails in the first wait; two more polls end by themselves. -/
def forsakenLife : List Occurrence :=
  let actions := List.replicate 40 (.event .act)
  let poll := .event (.elapse 20) :: actions
  List.replicate 3 (.event .act) ++ .outage .bus :: actions ++ poll ++ poll

/-- The session is given up with the bus, and the handlers see it. -/
theorem forsaken_completed :
    (start watchedSetup).attached = true ∧
      ((start watchedSetup).live forsakenLife).stage = .finished .completed ∧
      ((start watchedSetup).live forsakenLife).signals.attached = false ∧
      ((start watchedSetup).live forsakenLife).watching = false ∧
      ((start watchedSetup).live forsakenLife).signals.phase = .finalLinger := by
  have held : (start watchedSetup).attached = true := by decide +kernel
  have completed : ((start watchedSetup).live forsakenLife).stage = .finished .completed := by
    decide +kernel
  have fresh : watchedSetup.signals.phase = .starting := rfl
  have inside : ∀ occurrence ∈ forsakenLife, occurrence.publishes = false := by decide +kernel
  obtain ⟨-, -, returned, last⟩ := published_in_step fresh inside
  obtain ⟨-, shown, watched⟩ := returned .completed completed (by decide)
  exact ⟨held, completed, shown, watched, last completed⟩

end LaunchSupervisor.Reactor
