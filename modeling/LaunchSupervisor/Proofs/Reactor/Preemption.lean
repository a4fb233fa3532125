import LaunchSupervisor.Proofs.Reactor.Cleanup
import LaunchSupervisor.Proofs.Shutdown.Handlers

/-!
**What a handler leaves behind that ends the process.** A handler ends the process at once only when
the last phase was published. The reactor publishes the phase before it carries out the commands of
the same tick, so a handler that runs in between takes the cleanup for done while the scrub is
still ordered.

* `exit_abandons_iff`: exactly when such an end leaves temp files that nobody was told of.
* `published_run`: the last phase is published only once the shutdown is in it.
-/

namespace LaunchSupervisor.Reactor

variable {φ : Type}

/-- Whether an event publishes a phase in the reactor's place. -/
def Event.publishes : Event → Bool
  | .handler (.publishPhase _) => true
  | .access (.publishPhase _) => true
  | _ => false

variable [FileSystem φ]

/-! ### The phase that handlers see -/

/-- The reactor publishes the phase that the shutdown is in. -/
theorem published_step (reactor : Reactor φ) :
    reactor.step.signals.phase = reactor.signals.phase ∨
      reactor.step.signals.phase = reactor.step.core.phase := by
  cases stage : reactor.stage with
  | publishing answer =>
    refine Or.inr ?_
    simp only [step, stage]
  | waiting deadline =>
    refine Or.inl ?_
    simp only [step, stage]
    rw [await_eq]
  | serving wake =>
    refine Or.inl ?_
    simp only [step, stage]
    rw [serve_eq]
    rfl
  | receiving learnt =>
    refine Or.inl ?_
    simp only [step, stage]
    rw [receiveNext_eq]
  | learning learnt =>
    refine Or.inl ?_
    cases learnt with
    | nil => simp only [step, stage]; rfl
    | cons event rest =>
      simp only [step, stage]
      rw [learn_eq]
      rfl
  | executing commands keepRunning =>
    refine Or.inl ?_
    cases commands with
    | nil => cases keepRunning <;> simp only [step, stage] <;> rfl
    | cons command rest =>
      cases command with
      | scrubTempFiles =>
        simp only [step, stage, execute]
        rw [scrub_eq]
        rfl
      | _ => simp only [step, stage]; rfl
  | panicking =>
    refine Or.inl ?_
    simp only [step, stage, panic]
    split
    · rfl
    · rw [scrub_eq]
      rfl
  | finished exit => exact Or.inl (by rw [step_finished stage])
  | _ =>
    refine Or.inl ?_
    simp only [step, stage]
    rfl

theorem finalLinger_apply {reactor : Reactor φ} {event : Event}
    (alive : (reactor.apply event).stage ≠ .finished .atOnce)
    (last : reactor.core.phase = .finalLinger) :
    (reactor.apply event).core.phase = .finalLinger := by
  have turn := turn_apply alive
  generalize reactor.apply event = next at turn
  cases turn with
  | calm calm => rw [calm.core, last]
  | @receive learnt stage => rw [(kept_receiveNext reactor learnt).core, last]
  | @learn event rest stage => exact (learn_finalLinger reactor event).mpr last
  | tick stage => exact Shutdown.Core.tick_of_finalLinger _ last
  | scrub stage =>
    rw [scrub_eq]
    exact last
  | abandon stage =>
    rw [scrub_eq]
    exact last

/-- Nothing outside the reactor publishes a phase, but for what is there for it. -/
theorem published_outside {reactor : Reactor φ} {event : Event} (outside : event ≠ .act)
    (inside : event.publishes = false) :
    (reactor.apply event).signals.phase = reactor.signals.phase := by
  have outside := outside_apply reactor outside
  generalize reactor.apply event = next at outside
  cases outside with
  | @flags _ call calls wake =>
    refine SignalState.phase_apply ?_
    rintro phase rfl
    rcases calls with rfl | rfl <;> cases inside
  | @exit call files =>
    refine SignalState.phase_apply ?_
    rintro phase rfl
    cases inside
  | ended | arrive | busReady | child | elapse => rfl

/-- **The last phase is published only once the shutdown is in it.** -/
theorem published_run {setup : Setup φ} (fresh : setup.signals.phase ≠ .finalLinger)
    {events : List Event} (inside : ∀ event ∈ events, event.publishes = false)
    (alive : ((start setup).run events).stage ≠ .finished .atOnce)
    (published : ((start setup).run events).signals.phase = .finalLinger) :
    ((start setup).run events).core.phase = .finalLinger := by
  revert inside published
  -- What is published lags behind the phase, and the last phase is not left again.
  refine alive_run_induction (start setup) (motive := fun events reactor =>
    (∀ event ∈ events, event.publishes = false) → reactor.signals.phase = .finalLinger →
      reactor.core.phase = .finalLinger) (fun _ published => absurd published fresh) ?_ alive
  intro events event _ ih alive inside published
  have before : ∀ event ∈ events, event.publishes = false :=
    fun event earlier => inside event (List.mem_append_left _ earlier)
  by_cases acts : event = .act
  · rw [acts, apply_act] at published
    rcases published_step ((start setup).run events) with same | now
    · rw [same] at published
      exact finalLinger_apply alive (ih before published)
    · rw [now] at published
      rwa [acts, apply_act]
  · rw [published_outside acts (inside event (by simp))] at published
    exact finalLinger_apply alive (ih before published)

/-! ### The statement -/

/-- **Exactly when a handler abandons the cleanup** by ending the process: with the scrub ordered
and not carried out, and temp files that the caller has not taken over. -/
theorem exit_abandons_iff {setup : Setup Tree} (fresh : setup.signals.phase ≠ .finalLinger)
    {events : List Event} (inside : ∀ event ∈ events, event.publishes = false)
    (alive : ((start setup).run events).stage ≠ .finished .atOnce) {call : SignalCall}
    (exits : (((start setup).run events).signals.apply call).1 = some .exit) :
    ¬ (Excused (start setup) events ∨ Cleaned setup ((start setup).run events)) ↔
      .scrubTempFiles ∈ ((start setup).run events).stage.commands ∧ setup.tempFiles ≠ [] ∧
        ¬ Excused (start setup) events := by
  have account := account_run setup events alive
  have last := published_run fresh inside alive (SignalState.phase_of_exit exits)
  constructor
  · intro abandoned
    have unexcused : ¬ Excused (start setup) events := fun excused => abandoned (Or.inl excused)
    have uncleaned : ¬ Cleaned setup ((start setup).run events) :=
      fun cleaned => abandoned (Or.inr cleaned)
    rcases account.settled last with scrubbed | ordered | ⟨excused, -⟩
    · exact absurd (account.cleaned scrubbed) uncleaned
    · have untouched := account.untouched (account.ordered ordered).1
      exact ⟨ordered, fun none => uncleaned (untouched.cleaned_iff.mpr none), unexcused⟩
    · exact absurd excused unexcused
  · rintro ⟨ordered, some, unexcused⟩ (excused | cleaned)
    · exact unexcused excused
    · exact some ((account.untouched (account.ordered ordered).1).cleaned_iff.mp cleaned)

/-! ### A handler that runs too early -/

/-- Who never finds anything to receive is not excused. -/
theorem unexcused_of_empty {first : Reactor φ} {events : List Event}
    (empty : ∀ n < events.length,
      (first.run (events.take n)).session.all (·.connection.inbox.isEmpty)) :
    ¬ Excused first events := by
  rintro ⟨id, before, after, split, learnt, session, -, held, -, -, status, rest, inbox⟩
  have nothing := empty before.length (by rw [split]; simp)
  rw [split, List.take_left, held] at nothing
  simp [inbox] at nothing

/-- A setup with a temp file and a caller who is given no time to answer. -/
def impatientSetup : Setup Tree :=
  { tunables := { ({} : Settings).tunables with replyWait := 0 }
    session := some (.start {} ⟨"dtsvc.9", 12, 34⟩)
    files := .empty
    tempFiles := [.ofString "/tmp/a"] }

/-- The events of a run up to the commands of the tick that ends a graceful shutdown. -/
def overdueRun : List Event :=
  .handler (.graceful .terminated) :: List.replicate 3 .act ++ .elapse 20 :: List.replicate 12 .act

theorem overdue_exits :
    (((start impatientSetup).run overdueRun).signals.apply .panic).1 = some .exit := by
  decide +kernel

theorem overdue_unexcused : ¬ Excused (start impatientSetup) overdueRun :=
  unexcused_of_empty (by decide +kernel)

theorem overdue_uncleaned : ¬ Cleaned impatientSetup ((start impatientSetup).run overdueRun) := by
  have untouched : ((start impatientSetup).run overdueRun).files.changes = [] := by decide +kernel
  unfold Cleaned
  rw [untouched]
  intro cleaned
  cases cleaned

/-- A panic ends the process, though the report is not even sent and the temp file in place. -/
theorem exit_leaves_tempFiles :
    (((start impatientSetup).run overdueRun).signals.apply .panic).1 = some .exit ∧
      ¬ (Excused (start impatientSetup) overdueRun ∨
        Cleaned impatientSetup ((start impatientSetup).run overdueRun)) :=
  ⟨overdue_exits, fun kept => kept.elim overdue_unexcused overdue_uncleaned⟩

/-- It is the scrub that is still ordered. -/
theorem exit_before_scrub :
    (((start impatientSetup).run overdueRun).signals.apply .panic).1 = some .exit ∧
      .scrubTempFiles ∈ ((start impatientSetup).run overdueRun).stage.commands := by
  have inside : ∀ event ∈ overdueRun, event.publishes = false := by decide +kernel
  have exactly := exit_abandons_iff (by decide) inside (by decide +kernel) overdue_exits
  refine ⟨overdue_exits, (exactly.mp fun kept => ?_).1⟩
  exact kept.elim overdue_unexcused overdue_uncleaned

end LaunchSupervisor.Reactor
