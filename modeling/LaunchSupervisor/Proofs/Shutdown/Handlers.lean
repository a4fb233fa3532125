import LaunchSupervisor.Shutdown.Signals

/-!
**What a handler does to the flags.** Handlers go by what was published and never take anything back
that the supervisor goes by.

* `phase_of_exit`: a handler that ends the process has found the last phase published.
* `phase_apply`, `published_apply`, `childExited_apply`: what an access leaves as it is.
* `answer_of_isSignal`: whoever delivers a signal is told whether the process goes on.
-/

namespace LaunchSupervisor

/-- Whether a call is the delivery of a signal. -/
def SignalCall.isSignal : SignalCall → Bool
  | .graceful _ => true
  | .urgent => true
  | .ignorable => true
  | .panic => true
  | _ => false

/-- Whether a call publishes something, as only the supervisor does. -/
def SignalCall.publishes : SignalCall → Bool
  | .setAttached _ => true
  | .publishPhase _ => true
  | _ => false

namespace SignalState

theorem answer_of_isSignal (state : SignalState) {call : SignalCall} (signal : call.isSignal) :
    (state.apply call).1 ≠ none := by
  cases call with
  | graceful | urgent | ignorable | panic => exact Option.some_ne_none _
  | markChildExited | raiseUrgent | clearUrgent | setAttached | publishPhase => cases signal

theorem phase_degrade (state : SignalState) : state.degrade.2.phase = state.phase := by
  unfold degrade
  split <;> rfl

/-- Only an access that is there for it publishes a phase. -/
theorem phase_apply {state : SignalState} {call : SignalCall}
    (other : ∀ phase, call ≠ .publishPhase phase) :
    (state.apply call).2.phase = state.phase := by
  cases call with
  | graceful wait => cases wait <;> rfl
  | urgent => exact phase_degrade { state with urgent := true }
  | ignorable => exact phase_degrade state
  | panic =>
    show state.onPanic.2.phase = _
    unfold onPanic
    split
    · rfl
    · split <;> rfl
  | publishPhase phase => exact absurd rfl (other phase)
  | markChildExited | raiseUrgent | clearUrgent | setAttached attached => rfl

theorem attached_degrade (state : SignalState) : state.degrade.2.attached = state.attached := by
  unfold degrade
  split <;> rfl

/-- **A call that publishes nothing** leaves what was published. -/
theorem published_apply (state : SignalState) {call : SignalCall} (other : call.publishes = false) :
    (state.apply call).2.phase = state.phase ∧
      (state.apply call).2.attached = state.attached := by
  constructor
  · refine phase_apply ?_
    rintro phase rfl
    cases other
  · cases call with
    | graceful wait => cases wait <;> rfl
    | urgent => exact attached_degrade { state with urgent := true }
    | ignorable => exact attached_degrade state
    | panic =>
      show state.onPanic.2.attached = _
      unfold onPanic
      split
      · rfl
      · split <;> rfl
    | markChildExited | raiseUrgent | clearUrgent => rfl
    | setAttached | publishPhase => cases other

theorem phase_of_degrade {state : SignalState} (exits : state.degrade.1 = .exit) :
    state.phase = .finalLinger := by
  unfold degrade at exits
  split at exits
  · rename_i last
    exact last.2
  · cases exits

/-- **A handler that ends the process has found the last phase published.** -/
theorem phase_of_exit {state : SignalState} {call : SignalCall}
    (exits : (state.apply call).1 = some .exit) : state.phase = .finalLinger := by
  cases call with
  | graceful wait => cases wait <;> cases exits
  | urgent =>
    have exits : ({ state with urgent := true } : SignalState).degrade.1 = .exit :=
      Option.some.inj exits
    have last := phase_of_degrade exits
    exact last
  | ignorable => exact phase_of_degrade (Option.some.inj exits)
  | panic =>
    have exits : state.onPanic.1 = .exit := Option.some.inj exits
    unfold onPanic at exits
    split at exits
    · cases exits
    · split at exits
      · assumption
      · cases exits
  | markChildExited | raiseUrgent | clearUrgent | setAttached attached | publishPhase phase =>
    cases exits

/-- No handler takes back that the command is over. -/
theorem childExited_apply (state : SignalState) (call : SignalCall) (ended : state.childExited) :
    (state.apply call).2.childExited := by
  have degraded (state : SignalState) : state.degrade.2.childExited = state.childExited := by
    unfold degrade
    split <;> rfl
  cases call with
  | graceful wait =>
    cases wait with
    | terminated | noChildren => rfl
    | stopped | stillRunning | failed => exact ended
  | urgent => exact (degraded { state with urgent := true }).trans ended
  | ignorable => exact (degraded state).trans ended
  | panic =>
    show state.onPanic.2.childExited
    unfold onPanic
    split
    · exact ended
    · split <;> exact ended
  | markChildExited => rfl
  | raiseUrgent | clearUrgent | setAttached attached | publishPhase phase => exact ended

end SignalState

end LaunchSupervisor
