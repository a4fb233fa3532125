import LaunchSupervisor.Proofs.Shutdown.Safety
import Mathlib.Data.List.DropRight

/-!
**How long an urgent signal may be ignored.** Each tick that finds an urgent signal pending and the
command alive is counted, and one too many is a panic. The count is taken up again only when a tick
finds the signal heeded, with the command over; no other event touches it. Since a panic needs more
of them than the limit, a limit below the greatest count is kept to exactly.

* `timesIgnored`: the ticks to be counted, read off the events.
* `urgentTicks_after`: the count of a run, as high as it can be held.
* `panic_mem_step_iff`, `clearUrgent_step`: what one event orders.
* `grace_exact`: the statement.
-/

namespace LaunchSupervisor.Shutdown

/-- Whether an event is a tick on which an urgent signal is pending. -/
def Event.seesUrgent : Event → Bool
  | .tick seen => seen.urgent
  | _ => false

/-- Whether an event shows an urgent signal pending and the command alive. -/
def Event.showsIgnored (event : Event) : Bool :=
  event.seesUrgent && !event.seesEnd

/-- Whether an event shows an urgent signal pending and the command over. -/
def Event.showsHeeded (event : Event) : Bool :=
  event.seesUrgent && event.seesEnd

/-- How often an urgent signal was found ignored, from the start or since it was last heeded. -/
def timesIgnored (events : List Event) : Nat :=
  (events.rtakeWhile fun event => !event.showsHeeded).countP Event.showsIgnored

/-- **One event more**: a signal that is heeded ends the count. -/
theorem timesIgnored_concat (events : List Event) (event : Event) :
    timesIgnored (events ++ [event]) =
      if event.showsHeeded then 0 else timesIgnored events + event.showsIgnored.toNat := by
  unfold timesIgnored
  cases heeded : event.showsHeeded with
  | true =>
    rw [List.rtakeWhile_concat_neg _ _ _ (by simp [heeded])]
    rfl
  | false =>
    rw [List.rtakeWhile_concat_pos _ _ _ (by simp [heeded]), List.countP_append,
      List.countP_singleton]
    cases event.showsIgnored <;> rfl

namespace Core

/-! ### What one event does to the count -/

/-- The cascade of a tick with the command over has nothing to do with urgent signals. -/
theorem urgent_childOver (core : Core) (attached : Bool) (commands : List Command) :
    (childOver core attached commands).1.urgentTicks = core.urgentTicks ∧
      (childOver core attached commands).1.urgentLimit = core.urgentLimit := by
  obtain ⟨phase, _, ticks, skipped, _, limit⟩ := core
  by_cases late : countUp ticks > limit <;> cases phase <;> cases attached <;> cases skipped <;>
    simp +decide [childOver, Cascade.report, Cascade.awaitReply, Cascade.settle, Cascade.cleanUp,
      Cascade.finish, advance, Phase.advance, late]

theorem urgentLimit_step (core : Core) (event : Event) :
    (core.step event).1.urgentLimit = core.urgentLimit := by
  cases event with
  | tick seen =>
    show (core.tick seen).1.urgentLimit = _
    unfold tick
    split
    · split <;> exact (urgent_childOver _ _ _).2
    · split
      · dsimp only
        split <;> rfl
      · rfl
  | doneReplied | doneFailed => rfl

/-- **What an event does to the count.** -/
theorem urgentTicks_step (core : Core) (event : Event) :
    (core.step event).1.urgentTicks =
      if event.showsHeeded then 0
      else if event.showsIgnored then countUp core.urgentTicks
      else core.urgentTicks := by
  cases event with
  | tick seen =>
    show (core.tick seen).1.urgentTicks = _
    obtain ⟨ended, urgent, attached⟩ := seen
    unfold tick
    cases ended with
    | true =>
      rw [if_pos rfl]
      cases urgent with
      | true =>
        rw [if_pos rfl, (urgent_childOver { core with urgentTicks := 0 } attached _).1]
        rfl
      | false =>
        rw [if_neg Bool.false_ne_true, (urgent_childOver core attached _).1]
        rfl
    | false =>
      rw [if_neg Bool.false_ne_true]
      cases urgent with
      | true =>
        rw [if_pos rfl]
        dsimp only
        split <;> rfl
      | false => rfl
  | doneReplied | doneFailed => rfl

/-! ### What one event orders -/

theorem clearUrgent_not_mem_course (phase : Phase) (attached late : Bool) :
    .clearUrgent ∉ (course phase attached late).2 := by
  cases phase <;> cases attached <;> cases late <;> simp [course]

/-- **A panic is ordered** by a tick that finds an urgent signal ignored once too often, alone. -/
theorem panic_mem_step_iff (core : Core) (event : Event) :
    .panic ∈ (core.step event).2.commands ↔
      event.showsIgnored ∧ core.urgentLimit < countUp core.urgentTicks := by
  unfold Event.showsIgnored
  cases sawEnd : event.seesEnd with
  | true =>
    obtain ⟨seen, rfl, ended⟩ := sees_end_cases sawEnd
    have none : .panic ∉ (core.tick seen).2.commands := by
      rw [mem_tick_over core ended (Or.inr rfl)]
      exact panic_not_mem_course _ _ _
    exact iff_of_false none (by simp)
  | false =>
    cases event with
    | tick seen =>
      replace sawEnd : seen.childExited = false := sawEnd
      show .panic ∈ (core.tick seen).2.commands ↔ _
      unfold tick
      simp only [sawEnd, Event.seesUrgent, Bool.false_eq_true, if_false, Bool.not_false,
        Bool.and_true]
      cases seen.urgent with
      | false => simp
      | true =>
        simp only [if_true, gt_iff_lt, true_and]
        split <;> rename_i above <;> simp [above]
    | doneReplied | doneFailed => simp [step, Event.seesUrgent]

/-- A panic is all that is ordered then; the phase stays, and the loop does not go on. -/
theorem panic_step {core : Core} {event : Event}
    (ordered : .panic ∈ (core.step event).2.commands) :
    (core.step event).2 = ⟨[.panic], false⟩ ∧ (core.step event).1.phase = core.phase := by
  cases event with
  | tick seen =>
    have alive : seen.childExited = false := by
      have ignored := ((panic_mem_step_iff core (.tick seen)).mp ordered).1
      simpa [Event.showsIgnored, Event.seesEnd] using (Bool.and_eq_true_iff.mp ignored).2
    obtain ⟨phase, calm | panics⟩ := tick_alive core alive
    · replace ordered : .panic ∈ (core.tick seen).2.commands := ordered
      rw [calm] at ordered
      cases ordered
    · exact ⟨panics, phase⟩
  | doneReplied | doneFailed => cases ordered

/-- **A count that is not too high stays so** while the loop goes on. -/
theorem urgentTicks_within_step {core : Core} {event : Event}
    (within : core.urgentTicks ≤ core.urgentLimit) (goesOn : (core.step event).2.keepRunning) :
    (core.step event).1.urgentTicks ≤ (core.step event).1.urgentLimit := by
  rw [urgentTicks_step, urgentLimit_step]
  split
  · exact UInt32.zero_le
  · split
    · rename_i ignored
      refine UInt32.not_lt.mp fun above => ?_
      have panics := (panic_mem_step_iff core event).mpr ⟨ignored, above⟩
      rw [(panic_step panics).1] at goesOn
      cases goesOn
    · exact within

/-- **That a signal was heeded** is noted by a tick that finds it so, before all else and once. -/
theorem clearUrgent_step (core : Core) (event : Event) :
    (.clearUrgent ∈ (core.step event).2.commands ↔ event.showsHeeded) ∧
      (event.showsHeeded → ∃ rest, (core.step event).2.commands = .clearUrgent :: rest ∧
        .clearUrgent ∉ rest) := by
  unfold Event.showsHeeded
  cases sawEnd : event.seesEnd with
  | false =>
    obtain ⟨-, same | same, -⟩ := step_idle core sawEnd <;> simp [same]
  | true =>
    obtain ⟨seen, rfl, ended⟩ := sees_end_cases sawEnd
    have answer : (core.step (.tick seen)).2 = _ := (tick_over core ended).2
    have other := clearUrgent_not_mem_course core.phase seen.attached core.isLate
    rw [answer]
    cases core.ends seen.attached <;> cases urgent : seen.urgent <;>
      simp [other, Event.seesUrgent, urgent]

/-! ### The statement -/

/-- **The count of a run** is what the events say, as high as it can be held. -/
theorem urgentTicks_after (urgentLimit replyLimit : UInt32) (events : List Event) :
    ((start urgentLimit replyLimit).after events).urgentTicks.toNat =
        min (timesIgnored events) 4294967295 ∧
      ((start urgentLimit replyLimit).after events).urgentLimit = urgentLimit := by
  induction events using List.reverseRecOn with
  | nil => exact ⟨rfl, rfl⟩
  | append_singleton events event ih =>
    obtain ⟨counted, limit⟩ := ih
    rw [after_concat, urgentTicks_step, urgentLimit_step, timesIgnored_concat]
    refine ⟨?_, limit⟩
    split
    · rfl
    · split
      · rename_i ignored
        rw [countUp_toNat, counted, ignored, Bool.toNat_true]
        omega
      · rename_i calm
        rw [counted, Bool.eq_false_iff.mpr calm, Bool.toNat_false, Nat.add_zero]

/-- **An urgent signal may be ignored for exactly as long as the limit says.** A panic is ordered by
each tick that finds it ignored once more after it was found so as often as the limit allows, from
the start or since it was last heeded; and by nothing else. A panic is ordered alone and leaves the
phase. That a signal was heeded is noted first, by exactly the ticks that find it so. What is not
about an urgent signal leaves the count alone. -/
theorem grace_exact (urgentLimit replyLimit : UInt32) (limited : urgentLimit.toNat < 4294967295)
    (events : List Event) (event : Event) :
    let core := (start urgentLimit replyLimit).after events
    (.panic ∈ (core.step event).2.commands ↔
        event.showsIgnored ∧ urgentLimit.toNat ≤ timesIgnored events) ∧
      (.panic ∈ (core.step event).2.commands →
        (core.step event).2.commands = [.panic] ∧ (core.step event).1.phase = core.phase) ∧
      (.clearUrgent ∈ (core.step event).2.commands ↔ event.showsHeeded) ∧
      (event.showsHeeded →
        ∃ rest, (core.step event).2.commands = .clearUrgent :: rest ∧ .clearUrgent ∉ rest) ∧
      (event.seesEnd → .panic ∉ (core.step event).2.commands) ∧
      core.urgentTicks.toNat = min (timesIgnored events) 4294967295 ∧
      (event.seesUrgent = false → (core.step event).1.urgentTicks = core.urgentTicks) := by
  intro core
  obtain ⟨counted, limit⟩ := urgentTicks_after urgentLimit replyLimit events
  obtain ⟨clears, first⟩ := clearUrgent_step core event
  have ordered := panic_mem_step_iff core event
  refine ⟨?_, fun panics => ?_, clears, first, fun sawEnd panics => ?_, counted, fun calm => ?_⟩
  · rw [ordered, limit, UInt32.lt_iff_toNat_lt, countUp_toNat, counted]
    refine and_congr_right fun _ => ?_
    omega
  · obtain ⟨answer, phase⟩ := panic_step panics
    exact ⟨congrArg Step.commands answer, phase⟩
  · have ignored := (ordered.mp panics).1
    simp [Event.showsIgnored, sawEnd] at ignored
  · rw [urgentTicks_step]
    simp [Event.showsHeeded, Event.showsIgnored, calm]

/-- A signal that was heeded once, and then is ignored three times with other events in between; the
limit is two. -/
def stubbornRun : List Event :=
  [.tick ⟨false, true, true⟩, .tick ⟨false, true, true⟩, .tick ⟨true, true, true⟩,
    .tick ⟨false, true, true⟩, .doneReplied, .tick ⟨false, false, true⟩,
    .tick ⟨false, true, false⟩, .doneFailed]

theorem grace_stubborn :
    (2 : UInt32).toNat < 4294967295 ∧ timesIgnored stubbornRun = 2 ∧
      (((start 2 5).after stubbornRun).step (.tick ⟨false, true, true⟩)).2.commands =
      [.panic] ∧
      (((start 2 5).after (stubbornRun.take 6)).step (.tick ⟨false, true, true⟩)).2.commands ≠
        [.panic] := by
  have limited : (2 : UInt32).toNat < 4294967295 := by decide
  have times : timesIgnored stubbornRun = 2 := by decide
  have early : timesIgnored (stubbornRun.take 6) = 1 := by decide
  obtain ⟨panics, alone, -⟩ :=
    grace_exact 2 5 limited stubbornRun (.tick ⟨false, true, true⟩)
  obtain ⟨waits, -⟩ :=
    grace_exact 2 5 limited (stubbornRun.take 6) (.tick ⟨false, true, true⟩)
  refine ⟨limited, times, (alone (panics.mpr ⟨rfl, times.ge⟩)).1, fun given => ?_⟩
  have enough := (waits.mp (by rw [given]; exact List.mem_singleton_self _)).2
  rw [early] at enough
  exact absurd enough (by decide)

end Core

end LaunchSupervisor.Shutdown
