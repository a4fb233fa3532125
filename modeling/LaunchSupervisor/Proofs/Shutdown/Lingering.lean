import LaunchSupervisor.Policy
import LaunchSupervisor.Proofs.Shutdown.Handlers

/-!
**What keeps the window from staying.** An urgent signal and one that may be ignored both ask the
supervisor not to linger, and are heeded unless they end the process at once. That is all there is
to a signal that may be ignored: whoever looks at anything but this one flag cannot tell whether
there were any.

* `seen_eq`: what is seen of a sequence of accesses is what is seen without those signals.
* `forceTransient_after`: the flag is raised by exactly the signals that are heeded.
* `lasting_after`: which flags are not taken back.
* `ignorable_only_stops_lingering`: the statement.
-/

namespace LaunchSupervisor

/-- Whether a call is that of a signal that asks the supervisor not to linger. -/
def SignalCall.asksToLeave : SignalCall → Bool
  | .urgent => true
  | .ignorable => true
  | _ => false

namespace SignalState

/-- The flags but for the one that asks the supervisor not to linger. -/
def shown (state : SignalState) : SignalState :=
  { state with forceTransient := false }

/-! ### One access -/

/-- A signal that may be ignored changes nothing that is shown. -/
theorem shown_ignorable (state : SignalState) : (state.apply .ignorable).2.shown = state.shown := by
  show state.degrade.2.shown = state.shown
  unfold degrade
  split <;> rfl

theorem degrade_shown (state : SignalState) :
    state.shown.degrade.1 = state.degrade.1 ∧
      state.shown.degrade.2.shown = state.degrade.2.shown := by
  obtain ⟨childExited, urgent, forceTransient, panic, attached, phase⟩ := state
  cases childExited <;> cases phase <;> exact ⟨rfl, rfl⟩

theorem onPanic_shown (state : SignalState) :
    state.shown.onPanic.1 = state.onPanic.1 ∧
      state.shown.onPanic.2.shown = state.onPanic.2.shown := by
  obtain ⟨childExited, urgent, forceTransient, panic, attached, phase⟩ := state
  cases attached <;> cases phase <;> exact ⟨rfl, rfl⟩

/-- **No access goes by what is not shown.** -/
theorem apply_shown (state : SignalState) (call : SignalCall) :
    (state.shown.apply call).1 = (state.apply call).1 ∧
      (state.shown.apply call).2.shown = (state.apply call).2.shown := by
  cases call with
  | graceful wait => cases wait <;> exact ⟨rfl, rfl⟩
  | urgent =>
    obtain ⟨answer, flags⟩ := degrade_shown { state with urgent := true }
    exact ⟨congrArg some answer, flags⟩
  | ignorable =>
    obtain ⟨answer, flags⟩ := degrade_shown state
    exact ⟨congrArg some answer, flags⟩
  | panic =>
    obtain ⟨answer, flags⟩ := onPanic_shown state
    exact ⟨congrArg some answer, flags⟩
  | markChildExited | raiseUrgent | clearUrgent | setAttached attached | publishPhase phase =>
    exact ⟨rfl, rfl⟩

/-- So states that show the same come to the same. -/
theorem apply_congr {state other : SignalState} (same : state.shown = other.shown)
    (call : SignalCall) :
    (state.apply call).1 = (other.apply call).1 ∧
      (state.apply call).2.shown = (other.apply call).2.shown := by
  obtain ⟨answer, flags⟩ := apply_shown state call
  obtain ⟨answerOther, flagsOther⟩ := apply_shown other call
  rw [same] at answer flags
  exact ⟨answer.symm.trans answerOther, flags.symm.trans flagsOther⟩

/-- Whether an access is that of a signal that asks the supervisor not to linger, and is heeded. -/
def heeds (state : SignalState) (call : SignalCall) : Bool :=
  call.asksToLeave && (state.apply call).1 == some .resume

/-- **The flag is raised by a signal that is heeded**, and by nothing else. -/
theorem forceTransient_apply (state : SignalState) (call : SignalCall) :
    (state.apply call).2.forceTransient = (state.forceTransient || state.heeds call) := by
  have degraded (state : SignalState) : state.degrade.2.forceTransient =
      (state.forceTransient || state.degrade.1 == .resume) := by
    unfold degrade
    split
    · exact (Bool.or_false _).symm
    · exact (Bool.or_true _).symm
  have silent (call : SignalCall) (other : call.asksToLeave = false) :
      state.forceTransient = (state.forceTransient || state.heeds call) := by
    rw [heeds, other, Bool.false_and, Bool.or_false]
  cases call with
  | graceful wait =>
    rw [← silent _ rfl]
    cases wait <;> rfl
  | urgent => exact degraded { state with urgent := true }
  | ignorable => exact degraded state
  | panic =>
    rw [← silent _ rfl]
    show state.onPanic.2.forceTransient = _
    unfold onPanic
    split
    · rfl
    · split <;> rfl
  | markChildExited | raiseUrgent | clearUrgent | setAttached attached | publishPhase phase =>
    exact silent _ rfl

theorem panic_apply (state : SignalState) (call : SignalCall) (interrupted : state.panic) :
    (state.apply call).2.panic := by
  have degraded (state : SignalState) : state.degrade.2.panic = state.panic := by
    unfold degrade
    split <;> rfl
  cases call with
  | graceful wait => cases wait <;> exact interrupted
  | urgent => exact (degraded { state with urgent := true }).trans interrupted
  | ignorable => exact (degraded state).trans interrupted
  | panic =>
    show state.onPanic.2.panic
    unfold onPanic
    split
    · exact interrupted
    · split
      · exact interrupted
      · rfl
  | markChildExited | raiseUrgent | clearUrgent | setAttached attached | publishPhase phase =>
    exact interrupted

/-! ### Many accesses -/

/-- A flag that was raised is still raised later on. -/
structure Lasting (before after : SignalState) : Prop where
  childExited : before.childExited → after.childExited
  forceTransient : before.forceTransient → after.forceTransient
  panic : before.panic → after.panic

theorem lasting_apply (state : SignalState) (call : SignalCall) :
    Lasting state (state.apply call).2 where
  childExited := childExited_apply state call
  forceTransient raised := by rw [forceTransient_apply, raised, Bool.true_or]
  panic := panic_apply state call

theorem Lasting.trans {first second third : SignalState} (early : Lasting first second)
    (late : Lasting second third) : Lasting first third :=
  ⟨late.childExited ∘ early.childExited, late.forceTransient ∘ early.forceTransient,
    late.panic ∘ early.panic⟩

/-- **What is raised is never taken back.** -/
theorem lasting_after (state : SignalState) (calls : List SignalCall) :
    Lasting state (state.after calls) := by
  induction calls generalizing state with
  | nil => exact ⟨id, id, id⟩
  | cons call rest ih => exact (lasting_apply state call).trans (ih _)

theorem after_append (state : SignalState) (earlier later : List SignalCall) :
    state.after (earlier ++ later) = (state.after earlier).after later :=
  List.foldl_append

/-- Whether a signal that asks the supervisor not to linger is among some accesses and is told that
the process goes on. -/
def heedsAny (state : SignalState) (calls : List SignalCall) : Bool :=
  (calls.zip (state.run calls)).any fun (call, answer, _) =>
    call.asksToLeave && answer == some .resume

theorem forceTransient_after (state : SignalState) (calls : List SignalCall) :
    (state.after calls).forceTransient = (state.forceTransient || state.heedsAny calls) := by
  induction calls generalizing state with
  | nil => exact (Bool.or_false _).symm
  | cons call rest ih =>
    have later := ih (state.apply call).2
    rw [forceTransient_apply, Bool.or_assoc] at later
    exact later

/-- What is seen of some accesses, those of signals that may be ignored left out: the answer to each
and the flags after it. -/
def seen (state : SignalState) (calls : List SignalCall) :
    List (Option HandlerAction × SignalState) :=
  ((calls.zip (state.run calls)).filter fun (call, _) => call != .ignorable).map
    fun (_, answer, flags) => (answer, flags.shown)

theorem seen_ignorable (state : SignalState) (rest : List SignalCall) :
    state.seen (.ignorable :: rest) = (state.apply .ignorable).2.seen rest :=
  rfl

theorem seen_other (state : SignalState) {call : SignalCall} (other : call ≠ .ignorable)
    (rest : List SignalCall) :
    state.seen (call :: rest) =
      ((state.apply call).1, (state.apply call).2.shown) :: (state.apply call).2.seen rest := by
  unfold seen
  rw [run, List.zip_cons_cons, List.filter_cons_of_pos (by simpa using other), List.map_cons]

/-- **Signals that may be ignored are not seen.** -/
theorem seen_eq {state other : SignalState} (same : state.shown = other.shown)
    (calls : List SignalCall) :
    state.seen calls = (other.run (calls.filter (· != .ignorable))).map
      fun (answer, flags) => (answer, flags.shown) := by
  induction calls generalizing state other with
  | nil => rfl
  | cons call rest ih =>
    by_cases ignorable : call = .ignorable
    · subst ignorable
      rw [seen_ignorable]
      exact ih ((shown_ignorable state).trans same)
    · obtain ⟨answer, flags⟩ := apply_congr same call
      rw [seen_other state ignorable, ih flags, answer, flags,
        List.filter_cons_of_pos (by simpa using ignorable), run, List.map_cons]

/-! ### The statement -/

/-- **A signal that may be ignored only stops the lingering.** What is answered to all other
accesses, and every flag after them but the one, is the same without those signals. What is noted of
the command's end, of a request not to linger and of an interruption is never taken back. And
whatever was asked for, the window closes and the exit is clean if an urgent signal or one that may
be ignored was heeded; if none was, it is as was asked for. -/
theorem ignorable_only_stops_lingering (calls : List SignalCall) :
    let start : SignalState := {}
    start.seen calls = (start.run (calls.filter (· != .ignorable))).map
        (fun (answer, flags) => (answer, flags.shown)) ∧
      (∀ earlier later, calls = earlier ++ later →
        Lasting (start.after earlier) (start.after calls)) ∧
      ∀ (requested : OpenPolicy) (began : Int) (now : Option Int),
        (requested.effective (start.after calls).forceTransient).farewell began now =
          if start.heedsAny calls then .exit 0 else requested.farewell began now := by
  intro start
  refine ⟨seen_eq rfl calls, ?_, fun requested began now => ?_⟩
  · rintro earlier later rfl
    rw [after_append]
    exact lasting_after _ later
  · rw [forceTransient_after]
    cases start.heedsAny calls <;> rfl

end SignalState

end LaunchSupervisor
