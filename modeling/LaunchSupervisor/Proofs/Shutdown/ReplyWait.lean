import LaunchSupervisor.Proofs.Shutdown.Termination

/-!
**How long an answer is awaited.** From the tick that reports the end to the caller on, each tick
with the command over is counted, that one included; the session is given up with the first count
that is above the limit. So the limit is the number of such ticks that come after the report.

* `Reported`: the tick that orders the report, and how many come after it.
* `Awaiting.idle`, `Awaiting.tick`: one event more.
* `detach_ordered`: the statement.
-/

namespace LaunchSupervisor.Shutdown.Core

/-- **The report was ordered by a tick**, and so many ticks with the command over came after it. -/
def Reported (first : Core) (events : List Event) (count : Nat) : Prop :=
  ∃ before seen since, events = before ++ .tick seen :: since ∧
    .sendDone .done ∈ ((first.after before).tick seen).2.commands ∧
    since.countP Event.seesEnd = count

theorem Reported.concat {first : Core} {events : List Event} {count : Nat}
    (reported : Reported first events count) (event : Event) :
    Reported first (events ++ [event]) (count + event.seesEnd.toNat) := by
  obtain ⟨before, seen, since, rfl, ordered, counted⟩ := reported
  refine ⟨before, seen, since ++ [event], by simp, ordered, ?_⟩
  rw [List.countP_append, counted, List.countP_singleton]
  cases event.seesEnd <;> rfl

/-- The tick that orders the report. -/
theorem reported_now {first : Core} {events : List Event} {seen : Observation}
    (ordered : .sendDone .done ∈ ((first.after events).tick seen).2.commands) :
    Reported first (events ++ [.tick seen]) 0 :=
  ⟨events, seen, [], rfl, ordered, rfl⟩

theorem replyLimit_after (urgentLimit replyLimit : UInt32) (events : List Event) :
    ((start urgentLimit replyLimit).after events).replyLimit = replyLimit := by
  induction events using List.reverseRecOn with
  | nil => rfl
  | append_singleton events event ih => rw [after_concat, replyLimit_step, ih]

/-- **What the count says**: nothing before the report, and after it how often the command was seen
to be over, as high as it can be held; it is not above the limit. -/
structure Awaiting (first : Core) (events : List Event) : Prop where
  fresh : (first.after events).phase = .starting → (first.after events).replyTicks = 0
  waits : (first.after events).phase = .replyWait → ∃ count, Reported first events count ∧
    (first.after events).replyTicks.toNat = min (count + 1) 4294967295 ∧
    (first.after events).replyTicks.toNat ≤ (first.after events).replyLimit.toNat

namespace Awaiting

variable {first : Core} {events : List Event}

/-- A verdict leads out of the wait, and an event without the end leaves all as it is. -/
theorem idle (awaiting : Awaiting first events) {event : Event} (alive : event.seesEnd = false) :
    Awaiting first (events ++ [event]) := by
  obtain ⟨-, -, moved⟩ := step_idle (first.after events) alive
  have ticks := replyTicks_idle (first.after events) alive
  have limit := replyLimit_step (first.after events) event
  have early {phase : Phase} (waits : phase = .starting ∨ phase = .replyWait)
      (reached : ((first.after events).step event).1.phase = phase) :
      (first.after events).phase = phase := by
    rcases moved with same | ⟨-, moved⟩ | ⟨-, moved⟩
    · rw [← same, reached]
    all_goals
      rw [moved] at reached
      revert reached
      rcases waits with rfl | rfl <;> cases (first.after events).phase <;> decide
  constructor
  · rw [after_concat, ticks]
    exact fun reached => awaiting.fresh (early (Or.inl rfl) reached)
  · rw [after_concat, ticks, limit]
    intro reached
    obtain ⟨count, reported, counted, within⟩ := awaiting.waits (early (Or.inr rfl) reached)
    have more := reported.concat event
    rw [alive] at more
    exact ⟨count, more, counted, within⟩

/-- A tick with the command over comes out in the wait only if the count is not too high. -/
theorem tick (awaiting : Awaiting first events) {seen : Observation} (ended : seen.childExited) :
    Awaiting first (events ++ [.tick seen]) := by
  have sawEnd : (Event.tick seen).seesEnd = true := ended
  obtain ⟨limit, counts⟩ := replyTicks_tick_over (first.after events) ended
  obtain ⟨phase, answer⟩ := tick_over (first.after events) ended
  have next : first.after (events ++ [.tick seen]) = ((first.after events).tick seen).1 :=
    after_concat first events (.tick seen)
  constructor
  · rw [next, phase]
    intro reached
    revert reached
    cases (first.after events).phase <;> cases seen.attached <;>
      cases (first.after events).isLate <;> simp [course]
  · rw [next, limit]
    intro reached
    obtain ⟨before, notLate, counted⟩ := counts reached
    have within : ¬ countUp (first.after events).replyTicks > (first.after events).replyLimit :=
      of_decide_eq_false notLate
    rw [gt_iff_lt, UInt32.lt_iff_toNat_lt, Nat.not_lt] at within
    rw [counted]
    rcases before with starting | waits
    · have ordered : .sendDone .done ∈ ((first.after events).tick seen).2.commands := by
        rw [phase] at reached
        rcases course_replyWait reached with waits | ordered
        · rw [starting] at waits
          cases waits
        · rw [answer]
          simp [ordered]
      rw [awaiting.fresh starting] at within ⊢
      exact ⟨0, reported_now ordered, by decide, within⟩
    · obtain ⟨count, reported, sofar, -⟩ := awaiting.waits waits
      have more := reported.concat (.tick seen)
      rw [sawEnd, Bool.toNat_true] at more
      refine ⟨count + 1, more, ?_, within⟩
      rw [countUp_toNat, sofar]
      omega

end Awaiting

/-- **The count of a run** is what the events say. -/
theorem awaiting_after (urgentLimit replyLimit : UInt32) (events : List Event) :
    Awaiting (start urgentLimit replyLimit) events := by
  induction events using List.reverseRecOn with
  | nil =>
    refine ⟨fun _ => rfl, fun waits => ?_⟩
    cases waits
  | append_singleton events event ih =>
    cases sawEnd : event.seesEnd with
    | false => exact ih.idle sawEnd
    | true =>
      obtain ⟨seen, rfl, ended⟩ := sees_end_cases sawEnd
      exact ih.tick ended

/-- What gives up the session is a tick with the command over, in or right before the wait, with the
count too high. -/
theorem detach_mem_step {core : Core} {event : Event}
    (ordered : .detachSession ∈ (core.step event).2.commands) :
    ∃ seen, event = .tick seen ∧ seen.childExited ∧ core.isLate ∧
      (core.phase = .replyWait ∨
        core.phase = .starting ∧ .sendDone .done ∈ (core.tick seen).2.commands) := by
  cases sawEnd : event.seesEnd with
  | false =>
    obtain ⟨-, same | same, -⟩ := step_idle core sawEnd <;> simp [same] at ordered
  | true =>
    obtain ⟨seen, rfl, ended⟩ := sees_end_cases sawEnd
    refine ⟨seen, rfl, ended, ?_⟩
    have answer := (tick_over core ended).2
    have given : .detachSession ∈ (course core.phase seen.attached core.isLate).2 := by
      replace ordered : .detachSession ∈ (core.tick seen).2.commands := ordered
      rw [answer] at ordered
      revert ordered
      cases seen.urgent <;> cases core.ends seen.attached <;> simp
    rw [answer]
    revert given
    cases core.phase <;> cases seen.attached <;> cases core.isLate <;> simp [course]

/-- **The session is given up after exactly as many ticks with the command over as the limit says**,
behind the tick that orders the report. -/
theorem detach_ordered {urgentLimit replyLimit : UInt32} {events : List Event} {event : Event}
    (ordered : .detachSession ∈
      (((start urgentLimit replyLimit).after events).step event).2.commands) :
    Reported (start urgentLimit replyLimit) (events ++ [event]) replyLimit.toNat := by
  obtain ⟨seen, rfl, ended, late, phase⟩ := detach_mem_step ordered
  have awaiting := awaiting_after urgentLimit replyLimit events
  have limit := replyLimit_after urgentLimit replyLimit events
  have above : ((start urgentLimit replyLimit).after events).replyLimit <
      countUp ((start urgentLimit replyLimit).after events).replyTicks := of_decide_eq_true late
  rw [limit, UInt32.lt_iff_toNat_lt, countUp_toNat] at above
  rcases phase with waits | ⟨starting, report⟩
  · obtain ⟨count, reported, counted, within⟩ := awaiting.waits waits
    have more := reported.concat (.tick seen)
    rw [limit] at within
    have reached : replyLimit.toNat = count + (Event.tick seen).seesEnd.toNat := by
      rw [show (Event.tick seen).seesEnd = true from ended, Bool.toNat_true]
      omega
    rw [reached]
    exact more
  · rw [awaiting.fresh starting] at above
    have atOnce : replyLimit.toNat = 0 := by
      simp only [UInt32.toNat_zero] at above
      omega
    rw [atOnce]
    exact reported_now report

end LaunchSupervisor.Shutdown.Core
