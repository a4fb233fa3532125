import LaunchSupervisor.Proofs.Shutdown.Safety

/-!
**A shutdown comes to its end.** Once the command is over, each tick that sees it brings the end
nearer: the wait for an answer has a limit, a verdict or the loss of the session can only shorten
it, and behind the wait there is one extra pass. `remaining` counts the ticks that are left.

* `remaining_tick`: a tick that does not stop the loop leaves fewer.
* `remaining_step_le`: nothing else leaves more.
* `finishes_within_limit`: the statement, with the exact number of ticks for a silent caller.
-/

namespace LaunchSupervisor.Shutdown.Core

/-- How many ticks with the command over are left, at most. -/
def remaining (core : Core) : Nat :=
  match core.phase with
  | .starting | .replyWait => core.replyLimit.toNat - core.replyTicks.toNat + 2
  | .replied | .panicCleanup => 2
  | .finalLinger => if core.lingerSkipped then 1 else 2

theorem remaining_pos (core : Core) : 0 < core.remaining := by
  unfold remaining
  split
  · omega
  · omega
  · omega
  · omega
  · split <;> omega

/-- What a tick with the command over does to the wait. -/
theorem replyTicks_tick_over (core : Core) {seen : Observation} (ended : seen.childExited) :
    (core.tick seen).1.replyLimit = core.replyLimit ∧
      ((core.tick seen).1.phase = .replyWait →
        (core.phase = .starting ∨ core.phase = .replyWait) ∧ core.isLate = false ∧
          (core.tick seen).1.replyTicks = countUp core.replyTicks) := by
  obtain ⟨phase, _, ticks, skipped, _, limit⟩ := core
  unfold tick
  rw [if_pos ended]
  by_cases late : countUp ticks > limit <;> split <;>
    cases phase <;> cases seen.attached <;> cases skipped <;>
    simp +decide [childOver, Cascade.report, Cascade.awaitReply, Cascade.settle, Cascade.cleanUp,
      Cascade.finish, isLate, advance, Phase.advance, late]

theorem replyLimit_step (core : Core) (event : Event) :
    (core.step event).1.replyLimit = core.replyLimit := by
  cases event with
  | tick seen =>
    cases ended : seen.childExited with
    | true => exact (replyTicks_tick_over core ended).1
    | false =>
      show (core.tick seen).1.replyLimit = _
      unfold tick
      simp only [ended, Bool.false_eq_true, if_false]
      split
      · split <;> rfl
      · rfl
  | doneReplied => rfl
  | doneFailed => rfl

/-- What shows nothing of the end of the command is not counted. -/
theorem replyTicks_idle (core : Core) {event : Event} (alive : event.seesEnd = false) :
    (core.step event).1.replyTicks = core.replyTicks := by
  cases event with
  | tick seen =>
    replace alive : seen.childExited = false := alive
    show (core.tick seen).1.replyTicks = _
    unfold tick
    simp only [alive, Bool.false_eq_true, if_false]
    split
    · split <;> rfl
    · rfl
  | doneReplied | doneFailed => rfl

/-- A count that is not yet too high is below a limit that leaves room to exceed it. -/
theorem replyTicks_lt_of_not_isLate {core : Core} (limited : core.replyLimit.toNat < 4294967295)
    (early : core.isLate = false) : core.replyTicks.toNat < core.replyLimit.toNat := by
  have notAbove : ¬ core.replyLimit.toNat < (countUp core.replyTicks).toNat := by
    have := of_decide_eq_false early
    rwa [gt_iff_lt, UInt32.lt_iff_toNat_lt] at this
  rw [countUp_toNat] at notAbove
  omega

/-! ### Every tick with the command over brings the end nearer -/

/-- **A tick with the command over stops the loop, or leaves fewer of its kind.** -/
theorem remaining_tick {core : Core} (limited : core.replyLimit.toNat < 4294967295)
    {seen : Observation} (ended : seen.childExited)
    (goesOn : (core.tick seen).2.keepRunning) :
    (core.tick seen).1.remaining + 1 ≤ core.remaining := by
  obtain ⟨limit, waiting⟩ := replyTicks_tick_over core ended
  obtain ⟨phase, answer⟩ := tick_over core ended
  have skipped := lingerSkipped_tick_over core ended
  rw [answer] at goesOn
  obtain ⟨notReplied, notCleanup⟩ := course_phase core.phase seen.attached core.isLate
  rw [← phase] at notReplied notCleanup skipped
  cases reached : (core.tick seen).1.phase with
  | starting =>
    -- The cascade leaves the first phase in any case.
    rw [phase] at reached
    revert reached
    cases core.phase <;> cases seen.attached <;> cases core.isLate <;> simp [course]
  | replyWait =>
    obtain ⟨before, early, counted⟩ := waiting reached
    have below := replyTicks_lt_of_not_isLate limited early
    have next : (countUp core.replyTicks).toNat = core.replyTicks.toNat + 1 := by
      rw [countUp_toNat]
      omega
    have now : core.remaining = core.replyLimit.toNat - core.replyTicks.toNat + 2 := by
      rcases before with starting | waits
      · simp only [remaining, starting]
      · simp only [remaining, waits]
    simp only [remaining, reached]
    rw [limit, counted, next]
    show _ ≤ core.remaining
    omega
  | replied => exact absurd reached notReplied
  | panicCleanup => exact absurd reached notCleanup
  | finalLinger =>
    -- The extra pass was not begun before, or the loop would have stopped.
    have fresh : core.lingerSkipped = false := by
      cases before : core.lingerSkipped with
      | false => rfl
      | true => simp [ends, before, ← phase, reached] at goesOn
    have begun : (core.tick seen).1.lingerSkipped := by simp [skipped, reached]
    simp only [remaining, reached, begun, fresh, if_true, Bool.false_eq_true, if_false]
    split <;> omega

/-- **Nothing else puts the end off.** -/
theorem remaining_step_le (core : Core) {event : Event} (alive : event.seesEnd = false) :
    (core.step event).1.remaining ≤ core.remaining := by
  have skipped := (step_idle core alive).1
  have limit := replyLimit_step core event
  cases event with
  | tick seen =>
    have same : (core.step (.tick seen)).1.phase = core.phase := (tick_alive core alive).1
    have ticks := replyTicks_idle core alive
    unfold remaining
    exact Nat.le_of_eq (by rw [same, skipped, limit, ticks])
  | doneReplied =>
    show (core.advance .replied).remaining ≤ _
    cases phase : core.phase <;>
      simp +decide [remaining, advance, Phase.advance, phase]
  | doneFailed =>
    show (core.advance .panicCleanup).remaining ≤ _
    cases phase : core.phase <;>
      simp +decide [remaining, advance, Phase.advance, phase]

/-- **Along a run that is not stopped, each tick with the command over counts.** -/
theorem remaining_run_le (core : Core) (limited : core.replyLimit.toNat < 4294967295)
    (events : List Event) (goesOn : ∀ answer ∈ (core.run events).2, answer.keepRunning) :
    (core.run events).1.remaining + events.countP Event.seesEnd ≤ core.remaining := by
  induction events generalizing core with
  | nil => simp [run]
  | cons event rest ih =>
    have first : (core.step event).2.keepRunning := goesOn _ (List.mem_cons_self ..)
    have later : ∀ answer ∈ ((core.step event).1.run rest).2, answer.keepRunning :=
      fun answer given => goesOn answer (List.mem_cons_of_mem _ given)
    have tail := ih (core.step event).1 (by rwa [replyLimit_step]) later
    show ((core.step event).1.run rest).1.remaining + _ ≤ _
    cases sawEnd : event.seesEnd with
    | true =>
      obtain ⟨seen, rfl, ended⟩ := sees_end_cases sawEnd
      have head : (core.step (.tick seen)).1.remaining + 1 ≤ core.remaining :=
        remaining_tick limited ended first
      rw [List.countP_cons_of_pos sawEnd]
      omega
    | false =>
      have head := remaining_step_le core sawEnd
      rw [List.countP_cons_of_neg (by simp [sawEnd])]
      omega

/-! ### A caller who stays silent -/

/-- A tick with the command over and the session held, and nothing urgent. -/
def silentTick : Event :=
  .tick { childExited := true, urgent := false, attached := true }

/-- Whether a shutdown has yet to report, or waits for the answer within the limit. -/
structure Waiting (core : Core) : Prop where
  limited : core.replyLimit.toNat < 4294967295
  phase : core.phase = .starting ∨ core.phase = .replyWait
  fresh : core.lingerSkipped = false
  within : core.replyTicks.toNat ≤ core.replyLimit.toNat

theorem Waiting.remaining {core : Core} (waiting : core.Waiting) :
    core.remaining = core.replyLimit.toNat - core.replyTicks.toNat + 2 := by
  rcases waiting.phase with starting | waits
  · simp only [Core.remaining, starting]
  · simp only [Core.remaining, waits]

/-- **With nothing to shorten it, the wait takes its full length**: one tick less is left. -/
theorem Waiting.silentTick {core : Core} (waiting : core.Waiting) :
    (core.step silentTick).2.keepRunning ∧
      (core.step silentTick).1.remaining + 1 = core.remaining ∧
      ((core.step silentTick).1.Waiting ∨ (core.step silentTick).1.isLast) := by
  have ended : (⟨true, false, true⟩ : Observation).childExited := rfl
  obtain ⟨limit, counted⟩ := replyTicks_tick_over core ended
  obtain ⟨phase, answer⟩ := tick_over core ended
  have skipped := lingerSkipped_tick_over core ended
  have goesOn : (core.tick ⟨true, false, true⟩).2.keepRunning := by
    rw [answer]
    simp [ends, waiting.fresh]
  have limited := waiting.limited
  have before := waiting.remaining
  refine ⟨goesOn, ?_⟩
  show (core.tick ⟨true, false, true⟩).1.remaining + 1 = _ ∧
    ((core.tick ⟨true, false, true⟩).1.Waiting ∨ (core.tick ⟨true, false, true⟩).1.isLast)
  cases late : core.isLate with
  | false =>
    have waits : (core.tick ⟨true, false, true⟩).1.phase = .replyWait := by
      rw [phase, late]
      rcases waiting.phase with same | same <;> rw [same] <;> rfl
    have below := replyTicks_lt_of_not_isLate limited late
    have next :
        (core.tick ⟨true, false, true⟩).1.replyTicks.toNat = core.replyTicks.toNat + 1 := by
      rw [(counted waits).2.2, countUp_toNat]
      omega
    have still : (core.tick ⟨true, false, true⟩).1.Waiting :=
      ⟨by rwa [limit], Or.inr waits,
        by rw [skipped, ← phase, waits, waiting.fresh]; rfl, by rw [limit, next]; exact below⟩
    refine ⟨?_, Or.inl still⟩
    rw [still.remaining, before, limit, next]
    omega
  | true =>
    have last : (core.tick ⟨true, false, true⟩).1.phase = .finalLinger := by
      rw [phase, late]
      rcases waiting.phase with same | same <;> rw [same] <;> rfl
    have begun : (core.tick ⟨true, false, true⟩).1.lingerSkipped := by
      simp [skipped, ← phase, last]
    -- The count has reached the limit, so that two ticks were left.
    have reached : core.replyLimit.toNat ≤ core.replyTicks.toNat := by
      have above := of_decide_eq_true late
      rw [gt_iff_lt, UInt32.lt_iff_toNat_lt, countUp_toNat] at above
      omega
    refine ⟨?_, Or.inr ?_⟩
    · simp only [Core.remaining, last, begun, if_true]
      show _ = core.remaining
      omega
    · simp [isLast, last, begun]

theorem stops_of_isLast {core : Core} (last : core.isLast) :
    (core.step silentTick).2.keepRunning = false ∧ core.remaining = 1 := by
  simp only [isLast, Bool.and_eq_true, beq_iff_eq] at last
  obtain ⟨phase, skipped⟩ := last
  have answer := (@tick_over core ⟨true, false, true⟩ rfl).2
  constructor
  · show (core.tick ⟨true, false, true⟩).2.keepRunning = false
    rw [answer]
    simp [ends, skipped, phase, course]
  · simp only [remaining, phase, skipped, if_true]

/-- **A silent caller is waited for to the last tick.** -/
theorem run_silentTicks (left : Nat) {core : Core} (onCourse : core.Waiting ∨ core.isLast)
    (length : core.remaining = left + 1) :
    (core.run (List.replicate (left + 1) silentTick)).2.map (fun answer => answer.keepRunning) =
      List.replicate left true ++ [false] := by
  induction left generalizing core with
  | zero =>
    rcases onCourse with waiting | last
    · have := waiting.remaining
      omega
    · simpa [run] using (stops_of_isLast last).1
  | succ left ih =>
    rcases onCourse with waiting | last
    · obtain ⟨goesOn, less, next⟩ := waiting.silentTick
      have rest := ih next (by omega)
      rw [List.replicate_succ, run]
      simp only [List.map_cons, goesOn, rest]
      rfl
    · have := (stops_of_isLast last).2
      omega

/-! ### The statement -/

/-- **Every shutdown is over by the tick after its limit,** whatever else happens: of the ticks that
see the command over, the one that makes two more than the limit comes after a stop or is one. With
a silent caller it is the first stop. -/
theorem finishes_within_limit (urgentLimit replyLimit : UInt32)
    (limited : replyLimit.toNat < 4294967295) :
    (∀ (events : List Event) (seen : Observation), seen.childExited →
        events.countP Event.seesEnd = replyLimit.toNat + 1 →
        ∃ answer ∈ ((start urgentLimit replyLimit).run (events ++ [.tick seen])).2,
          answer.keepRunning = false) ∧
      ((start urgentLimit replyLimit).run (List.replicate (replyLimit.toNat + 2) silentTick)).2.map
          (fun answer => answer.keepRunning) =
        List.replicate (replyLimit.toNat + 1) true ++ [false] := by
  have length : (start urgentLimit replyLimit).remaining = replyLimit.toNat + 2 := rfl
  constructor
  · intro events seen ended count
    by_contra never
    have goesOn : ∀ answer ∈ ((start urgentLimit replyLimit).run (events ++ [.tick seen])).2,
        answer.keepRunning := by
      intro answer given
      cases stops : answer.keepRunning with
      | true => rfl
      | false => exact absurd ⟨answer, given, stops⟩ never
    have left := remaining_run_le (start urgentLimit replyLimit) limited _ goesOn
    have more := remaining_pos ((start urgentLimit replyLimit).run (events ++ [.tick seen])).1
    have last : [Event.tick seen].countP Event.seesEnd = 1 := by simp [Event.seesEnd, ended]
    rw [List.countP_append, count, length, last] at left
    omega
  · refine run_silentTicks (replyLimit.toNat + 1)
      (Or.inl ⟨limited, Or.inl rfl, rfl, ?_⟩) length
    exact Nat.zero_le _

/-- A limit of two ticks ends a shutdown with the fourth. -/
theorem finishes_within_two : (2 : UInt32).toNat < 4294967295 ∧
    (∀ (events : List Event) (seen : Observation), seen.childExited →
        events.countP Event.seesEnd = 3 →
        ∃ answer ∈ ((start 3 2).run (events ++ [.tick seen])).2, answer.keepRunning = false) ∧
      ((start 3 2).run (List.replicate 4 silentTick)).2.map (fun answer => answer.keepRunning) =
        [true, true, true, false] :=
  ⟨by decide, finishes_within_limit 3 2 (by decide)⟩

end LaunchSupervisor.Shutdown.Core
