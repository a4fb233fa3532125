import LaunchSupervisor.Proofs.Reactor.Turn
import LaunchSupervisor.Proofs.Shutdown.Handlers

/-!
**The last pass of the loop.** Once the command is seen to be over and no session is held, the
reactor's next tick brings the shutdown into its last phase, and one more pass is made before the
loop ends. The pass has one wait, and a wait ends with one thing to be seen to.

* `drains_le_one`: the reactor sees to the error output once more at most.
* `Winding.apply`: the step, by how often it still can (`passes`).
-/

namespace LaunchSupervisor.Reactor

variable {φ : Type}

/-- How far a stage is from the end of a pass: ahead of the wait, behind it, or out of the loop. -/
def Stage.leg : Stage → Nat
  | .top => 2
  | .pollExited => 2
  | .pollUrgent => 2
  | .poll _ => 2
  | .waiting _ => 2
  | .serving _ => 2
  | .publishing step => if step.keepRunning then 2 else 0
  | .executing _ keepRunning => if keepRunning then 2 else 0
  | .realigning _ keepRunning => if keepRunning then 2 else 0
  | .opening => 1
  | .receiving _ => 1
  | .learning _ => 1
  | .recheck => 1
  | .noticing => 1
  | .noticed => 1
  | .seeExited => 1
  | .seeUrgent _ => 1
  | .ticking _ _ => 1
  | _ => 0

/-- What the reactor has seen of the command on its way to a tick. -/
def Stage.saw : Stage → Option Bool
  | .seeUrgent exited => some exited
  | .ticking exited _ => some exited
  | _ => none

/-- Whether an event is that the reactor sees to the error output. -/
def isDrain (reactor : Reactor φ) : Event → Bool
  | .act => decide (reactor.stage = .serving .stderr)
  | _ => false

/-- How often at most the reactor will still see to it, with the shutdown winding down. -/
def passes (reactor : Reactor φ) : Nat :=
  if reactor.stage.leg = 2 then 1
  else if reactor.stage.leg = 1 then (!reactor.core.isLast).toNat
  else 0

/-! ### One event -/

/-- **A change that is no tick** leads on towards the end of the pass. -/
structure Onward (before after : Reactor φ) : Prop where
  exited : before.signals.childExited → after.signals.childExited
  leg : after.stage.leg ≤ before.stage.leg
  saw : ∀ exited, after.stage.saw = some exited →
    exited = before.signals.childExited ∨ before.stage.saw = some exited

theorem leg_le_two (stage : Stage) : stage.leg ≤ 2 := by
  unfold Stage.leg
  repeat' split
  all_goals decide

theorem Onward.to {before after : Reactor φ} (exited : after.signals = before.signals)
    {stage : Stage} (at_ : before.stage = stage) (leg : after.stage.leg ≤ stage.leg)
    (saw : after.stage.saw = none) : Onward before after := by
  refine ⟨fun ended => by rwa [exited], by rwa [at_], fun seen told => ?_⟩
  rw [saw] at told
  cases told

variable [FileSystem φ]

omit [FileSystem φ] in
/-- A change between stages without a say in how often the reactor goes round. -/
theorem onward_goto {reactor : Reactor φ} {stage : Stage} (at_ : reactor.stage = stage)
    (next : Stage) (leg : next.leg ≤ stage.leg) (saw : next.saw = none) :
    Onward reactor (reactor.goto next) :=
  .to rfl at_ leg saw

theorem onward_step {reactor : Reactor φ}
    (elsewhere : ∀ exited urgent, reactor.stage ≠ .ticking exited urgent) :
    Onward reactor reactor.step := by
  cases stage : reactor.stage with
  | top =>
    simp only [step, stage]
    split
    · exact onward_goto stage _ (Nat.zero_le _) rfl
    · exact onward_goto stage _ (Nat.le_refl _) rfl
  | pollExited =>
    simp only [step, stage]
    split <;> exact onward_goto stage _ (Nat.le_refl _) rfl
  | pollUrgent =>
    simp only [step, stage]
    exact onward_goto stage _ (Nat.le_refl _) rfl
  | poll short =>
    simp only [step, stage]
    exact onward_goto stage _ (Nat.le_refl _) rfl
  | waiting deadline =>
    simp only [step, stage]
    rw [await_eq]
    rcases stage_await reactor deadline with same | ⟨wake, wakes⟩
    · rw [same, stage]
      exact .to rfl stage (Nat.le_refl _) rfl
    · rw [wakes]
      exact .to rfl stage (Nat.le_refl _) rfl
  | serving wake =>
    simp only [step, stage]
    rw [serve_eq]
    exact .to rfl stage (Nat.le_succ 1) rfl
  | opening =>
    simp only [step, stage]
    split <;> exact onward_goto stage _ (Nat.le_refl _) rfl
  | receiving learnt =>
    simp only [step, stage]
    rw [receiveNext_eq]
    obtain ⟨more, next | next⟩ := stage_receiveNext reactor learnt
    · rw [next]
      exact .to rfl stage (Nat.le_refl _) rfl
    · rw [next]
      exact .to rfl stage (Nat.le_refl _) rfl
  | learning learnt =>
    cases learnt with
    | nil =>
      simp only [step, stage]
      exact ⟨id, by rw [stage]; exact Nat.le_refl 1, fun _ told => by cases told⟩
    | cons event rest =>
      simp only [step, stage]
      rw [learn_eq]
      exact .to rfl stage (Nat.le_refl _) rfl
  | recheck =>
    simp only [step, stage]
    split
    · exact onward_goto stage _ (Nat.zero_le _) rfl
    · exact onward_goto stage _ (Nat.le_refl _) rfl
  | noticing =>
    simp only [step, stage]
    exact .to rfl stage (Nat.le_refl _) rfl
  | noticed =>
    simp only [step, stage]
    exact ⟨id, by rw [stage]; exact Nat.le_refl 1, fun _ told => by cases told⟩
  | seeExited =>
    simp only [step, stage]
    refine ⟨id, by rw [stage]; exact Nat.le_refl 1, fun exited told => Or.inl ?_⟩
    exact (Option.some.inj told).symm
  | seeUrgent exited =>
    simp only [step, stage]
    refine ⟨id, by rw [stage]; exact Nat.le_refl 1, fun exited told => Or.inr ?_⟩
    rw [stage]
    exact told
  | ticking exited urgent => exact absurd stage (elsewhere exited urgent)
  | publishing answer =>
    simp only [step, stage]
    exact ⟨id, by rw [stage]; exact Nat.le_refl _, fun _ told => by cases told⟩
  | executing commands keepRunning =>
    cases commands with
    | nil =>
      cases keepRunning with
      | true =>
        simp only [step, stage]
        exact onward_goto stage _ (Nat.le_refl _) rfl
      | false =>
        simp only [step, stage]
        exact onward_goto stage _ (Nat.le_refl _) rfl
    | cons command rest =>
      simp only [step, stage]
      cases command with
      | sendDone status => exact .to rfl stage (Nat.le_refl _) rfl
      | detachSession => exact .to rfl stage (Nat.le_refl _) rfl
      | scrubTempFiles =>
        simp only [execute]
        rw [scrub_eq]
        exact .to rfl stage (Nat.le_refl _) rfl
      | clearUrgent =>
        exact ⟨id, by rw [stage]; exact Nat.le_refl _, fun _ told => by cases told⟩
      | panic => exact onward_goto stage _ (Nat.zero_le _) rfl
      | finalLinger => exact onward_goto stage _ (Nat.le_refl _) rfl
  | realigning rest keepRunning =>
    simp only [step, stage]
    exact ⟨id, by rw [stage]; exact Nat.le_refl _, fun _ told => by cases told⟩
  | leaving =>
    simp only [step, stage]
    exact .to rfl stage (Nat.le_refl _) rfl
  | left =>
    simp only [step, stage]
    exact ⟨id, Nat.zero_le _, fun _ told => by cases told⟩
  | panicking =>
    simp only [step, stage, panic]
    split
    · exact .to rfl stage (Nat.le_refl _) rfl
    · rw [scrub_eq]
      exact .to rfl stage (Nat.le_refl _) rfl
  | panicDetaching =>
    simp only [step, stage]
    exact .to rfl stage (Nat.le_refl _) rfl
  | panicked =>
    simp only [step, stage]
    exact ⟨id, Nat.zero_le _, fun _ told => by cases told⟩
  | finished exit =>
    rw [step_finished stage]
    exact ⟨id, Nat.le_refl _, fun _ told => Or.inr told⟩

/-- What happens outside the reactor leaves the shutdown as it is. -/
theorem onward_outside (reactor : Reactor φ) {event : Event} (outside : event ≠ .act) :
    Onward reactor (reactor.apply event) ∧ (reactor.apply event).core = reactor.core := by
  have moved := stage_outside reactor outside
  have kept : (reactor.signals.childExited → (reactor.apply event).signals.childExited) ∧
      (reactor.apply event).core = reactor.core := by
    have outside := outside_apply reactor outside
    generalize reactor.apply event = next at outside
    cases outside with
    | @flags _ call | @exit call => exact ⟨SignalState.childExited_apply _ call, rfl⟩
    | ended | arrive | busReady | child | elapse => exact ⟨id, rfl⟩
  refine ⟨?_, kept.2⟩
  rcases moved with stage | stage
  · refine ⟨kept.1, Nat.le_of_eq (by rw [stage]), fun _ told => Or.inr ?_⟩
    rwa [stage] at told
  · refine ⟨kept.1, by rw [stage]; exact Nat.zero_le _, fun _ told => ?_⟩
    rw [stage] at told
    cases told

theorem isLast_step {reactor : Reactor φ}
    (elsewhere : ∀ exited urgent, reactor.stage ≠ .ticking exited urgent) :
    reactor.step.core.isLast = reactor.core.isLast := by
  have turn := turn_step reactor
  generalize reactor.step = next at turn
  cases turn with
  | calm calm => rw [calm.core]
  | @receive learnt stage => rw [(kept_receiveNext reactor learnt).core]
  | @learn event rest stage =>
    show (reactor.learn event).core.isLast = _
    have phase := learn_finalLinger reactor event
    have skipped : (reactor.learn event).core.lingerSkipped = reactor.core.lingerSkipped := by
      cases event <;> rfl
    unfold Shutdown.Core.isLast
    rw [skipped, Bool.beq_eq_decide_eq, Bool.beq_eq_decide_eq, decide_eq_decide.mpr phase]
  | tick stage => exact absurd stage (elsewhere _ _)
  | scrub stage =>
    rw [scrub_eq]
    rfl
  | abandon stage =>
    rw [scrub_eq]
    rfl

/-! ### The last passes -/

/-- **The shutdown is winding down**: the command is seen to be over with every tick, no session is
held, and whoever goes round once more does so for the last time. -/
structure Winding (reactor : Reactor φ) : Prop where
  exited : reactor.signals.childExited
  gone : reactor.attached = false
  saw : reactor.stage.saw ≠ some false
  ahead : reactor.stage.leg = 2 → reactor.core.isLast

omit [FileSystem φ] in
theorem Winding.tick {reactor : Reactor φ} (winding : Winding reactor) {exited urgent : Bool}
    (stage : reactor.stage = .ticking exited urgent) :
    Winding (reactor.tick exited urgent) ∧
      (reactor.tick exited urgent).passes ≤ reactor.passes := by
  have ended : exited = true := by
    cases exited with
    | true => rfl
    | false => exact absurd (by rw [stage]; rfl) winding.saw
  subst ended
  obtain ⟨last, goesOn⟩ := reactor.core.tick_detached ⟨true, urgent, reactor.attached⟩ rfl
    winding.gone
  refine ⟨⟨winding.exited, winding.gone, by simp [Reactor.tick, Stage.saw],
    fun _ => last⟩, ?_⟩
  have leg : (reactor.tick true urgent).stage.leg =
      if reactor.core.lingerSkipped then 0 else 2 := by
    show (if (reactor.core.tick ⟨true, urgent, reactor.attached⟩).2.keepRunning
      then 2 else 0) = _
    rw [goesOn]
    cases reactor.core.lingerSkipped <;> rfl
  have now : reactor.stage.leg = 1 := by rw [stage]; rfl
  unfold passes
  rw [leg, now]
  cases skipped : reactor.core.lingerSkipped with
  | true => exact Nat.zero_le _
  | false =>
    have early : reactor.core.isLast = false := by
      unfold Shutdown.Core.isLast
      rw [skipped, Bool.and_false]
    rw [early]
    exact Nat.le_refl 1

omit [FileSystem φ] in
theorem Winding.onward {reactor next : Reactor φ} (winding : Winding reactor)
    (onward : Onward reactor next) (gone : next.attached = false)
    (same : next.core.isLast = reactor.core.isLast) :
    Winding next ∧ next.passes ≤ reactor.passes := by
  have leg := onward.leg
  have bound := leg_le_two reactor.stage
  constructor
  · refine ⟨onward.exited winding.exited, gone, fun saw => ?_, fun ahead => ?_⟩
    · rcases onward.saw false saw with seen | seen
      · rw [winding.exited] at seen
        cases seen
      · exact winding.saw seen
    · rw [same]
      exact winding.ahead (by omega)
  · unfold passes
    rw [same]
    by_cases ahead : next.stage.leg = 2
    · have before : reactor.stage.leg = 2 := by omega
      exact Nat.le_of_eq (by rw [if_pos ahead, if_pos before])
    · rw [if_neg ahead]
      by_cases behind : next.stage.leg = 1
      · rw [if_pos behind]
        by_cases before : reactor.stage.leg = 2
        · rw [winding.ahead before]
          exact Nat.zero_le _
        · have here : reactor.stage.leg = 1 := by omega
          exact Nat.le_of_eq (by rw [if_neg before, if_pos here])
      · rw [if_neg behind]
        exact Nat.zero_le _

/-- Seeing to the error output uses up the pass. -/
theorem Winding.drain {reactor : Reactor φ} (winding : Winding reactor) {event : Event}
    (drains : reactor.isDrain event) :
    (reactor.apply event).passes = 0 ∧ reactor.passes = 1 := by
  cases event with
  | act =>
    have stage : reactor.stage = .serving .stderr := of_decide_eq_true drains
    have ahead : reactor.stage.leg = 2 := by rw [stage]; rfl
    have last := winding.ahead ahead
    rw [apply_act]
    simp only [step, stage]
    refine ⟨?_, if_pos ahead⟩
    rw [serve_eq]
    show (!reactor.core.isLast).toNat = 0
    rw [last]
    rfl
  | _ => cases drains

/-- **One event of a shutdown that is winding down.** -/
theorem Winding.apply {reactor : Reactor φ} (winding : Winding reactor) (event : Event) :
    Winding (reactor.apply event) ∧
      (reactor.isDrain event).toNat + (reactor.apply event).passes ≤ reactor.passes := by
  have gone := gone_apply winding.gone event
  have kept : Winding (reactor.apply event) ∧
      (reactor.apply event).passes ≤ reactor.passes := by
    -- Only a tick sends the loop round again; everything else leads on within the pass.
    by_cases acts : event = .act
    · subst acts
      rw [apply_act] at gone ⊢
      by_cases ticking : ∃ exited urgent, reactor.stage = .ticking exited urgent
      · obtain ⟨exited, urgent, stage⟩ := ticking
        simp only [step, stage]
        exact winding.tick stage
      · have elsewhere : ∀ exited urgent, reactor.stage ≠ .ticking exited urgent :=
          fun exited urgent stage => ticking ⟨exited, urgent, stage⟩
        exact winding.onward (onward_step elsewhere) gone (isLast_step elsewhere)
    · obtain ⟨onward, core⟩ := onward_outside reactor acts
      exact winding.onward onward gone (congrArg Shutdown.Core.isLast core)
  refine ⟨kept.1, ?_⟩
  cases drains : reactor.isDrain event with
  | true =>
    obtain ⟨after, before⟩ := winding.drain drains
    rw [after, before]
    exact Nat.le_refl 1
  | false => simpa using kept.2

/-- How often the reactor sees to the error output in a run. -/
def drains (reactor : Reactor φ) : List Event → Nat
  | [] => 0
  | event :: rest => (reactor.isDrain event).toNat + drains (reactor.apply event) rest

theorem Winding.drains_le {reactor : Reactor φ} (winding : Winding reactor) (events : List Event) :
    reactor.drains events ≤ reactor.passes := by
  induction events generalizing reactor with
  | nil => exact Nat.zero_le _
  | cons event rest ih =>
    obtain ⟨still, spent⟩ := winding.apply event
    exact Nat.le_trans (Nat.add_le_add_left (ih still) _) spent

/-- **Once the command is seen to be over and no session is held**, the reactor sees to the error
output once more at most. -/
theorem drains_le_one {reactor : Reactor φ} (seen : reactor.stage = .seeExited)
    (exited : reactor.signals.childExited) (gone : reactor.attached = false)
    (events : List Event) : reactor.drains events ≤ 1 := by
  have behind : reactor.stage.leg = 1 := by rw [seen]; rfl
  have winding : Winding reactor := by
    refine ⟨exited, gone, ?_, fun ahead => ?_⟩
    · rw [seen]
      decide
    · rw [behind] at ahead
      cases ahead
  refine Nat.le_trans (winding.drains_le events) ?_
  unfold passes
  rw [behind]
  exact Bool.toNat_le _

end LaunchSupervisor.Reactor
