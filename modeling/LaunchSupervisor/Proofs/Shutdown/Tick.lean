import LaunchSupervisor.Shutdown.Core

/-!
**What a tick makes of the shutdown.** On a tick on which the command is over the cascade walks
through one phase after the other. Where it comes out depends on three things only: the phase it
starts in, whether the session is held, and whether the wait for the answer has become too long.
`course` lists the outcomes; everything else about ticks is read off that list.

* `tick_over`, `tick_alive`: the outcome of a tick, with the command over and with it alive.
* `tick_finalLinger`: a shutdown whose cleanup is settled has either ordered the scrub or was
  acknowledged with the session held.
* `tick_detached`: without a session there is one tick more.
* `guarded_tick`: the scrub is ordered only behind the end of the session.
-/

namespace LaunchSupervisor.Shutdown

namespace Core

/-- Whether the wait for the answer becomes too long with the next tick. -/
def isLate (core : Core) : Bool :=
  decide (countUp core.replyTicks > core.replyLimit)

/-- Where a tick on which the command is over takes the shutdown, and the commands on the way. -/
def course (phase : Phase) (attached late : Bool) : Phase × List Command :=
  match phase, attached, late with
  | .starting, true, false => (.replyWait, [.sendDone .done])
  | .starting, true, true =>
    (.finalLinger, [.sendDone .done, .detachSession, .scrubTempFiles])
  | .starting, false, _ => (.finalLinger, [.scrubTempFiles])
  | .replyWait, true, false => (.replyWait, [])
  | .replyWait, true, true => (.finalLinger, [.detachSession, .scrubTempFiles])
  | .replyWait, false, _ => (.finalLinger, [.scrubTempFiles])
  | .replied, true, _ => (.finalLinger, [])
  | .replied, false, _ => (.finalLinger, [.scrubTempFiles])
  | .panicCleanup, _, _ => (.finalLinger, [.scrubTempFiles])
  | .finalLinger, _, _ => (.finalLinger, [])

/-- Whether such a tick ends the shutdown: the extra pass was made before. -/
def ends (core : Core) (attached : Bool) : Bool :=
  core.lingerSkipped && (course core.phase attached core.isLate).1 == .finalLinger

/-- Whether the shutdown is in its last phase and the extra pass was begun. -/
def isLast (core : Core) : Bool :=
  core.phase == .finalLinger && core.lingerSkipped

/-- **The cascade follows its course**, and the extra pass is begun where it comes to the end. -/
theorem childOver_course (core : Core) (attached : Bool) (commands : List Command) :
    (childOver core attached commands).1.phase = (course core.phase attached core.isLate).1 ∧
      (childOver core attached commands).1.isLast =
        ((course core.phase attached core.isLate).1 == .finalLinger) ∧
      (childOver core attached commands).2 =
        ⟨commands ++ (course core.phase attached core.isLate).2 ++
          (if core.ends attached then [.finalLinger] else []), !core.ends attached⟩ := by
  obtain ⟨phase, _, ticks, skipped, _, limit⟩ := core
  -- Nothing else decides what the cascade does.
  by_cases late : countUp ticks > limit <;>
    cases phase <;> cases attached <;> cases skipped <;>
    simp +decide [childOver, Cascade.report, Cascade.awaitReply, Cascade.settle, Cascade.cleanUp,
      Cascade.finish, course, isLate, isLast, ends, advance, Phase.advance, late]

/-- **A tick on which the command is over.** -/
theorem tick_over (core : Core) {seen : Observation} (ended : seen.childExited) :
    (core.tick seen).1.phase = (course core.phase seen.attached core.isLate).1 ∧
      (core.tick seen).2 =
        ⟨(if seen.urgent then [.clearUrgent] else []) ++
            (course core.phase seen.attached core.isLate).2 ++
            (if core.ends seen.attached then [.finalLinger] else []),
          !core.ends seen.attached⟩ := by
  unfold tick
  rw [if_pos ended]
  split
  · obtain ⟨phase, -, answer⟩ :=
      childOver_course { core with urgentTicks := 0 } seen.attached [.clearUrgent]
    exact ⟨phase, answer⟩
  · obtain ⟨phase, -, answer⟩ := childOver_course core seen.attached []
    exact ⟨phase, answer⟩

/-- **A tick on which the command is alive** leaves the phase; all it can order is a panic. -/
theorem tick_alive (core : Core) {seen : Observation} (alive : seen.childExited = false) :
    (core.tick seen).1.phase = core.phase ∧
      ((core.tick seen).2 = ⟨[], true⟩ ∨ (core.tick seen).2 = ⟨[.panic], false⟩) := by
  unfold tick
  simp only [alive, Bool.false_eq_true, if_false]
  split
  · split
    · exact ⟨rfl, Or.inr rfl⟩
    · exact ⟨rfl, Or.inl rfl⟩
  · exact ⟨rfl, Or.inl rfl⟩

/-- **Without a session the first such tick is the last but one.** -/
theorem tick_detached (core : Core) (seen : Observation) (ended : seen.childExited)
    (gone : seen.attached = false) :
    (core.tick seen).1.isLast ∧ (core.tick seen).2.keepRunning = !core.lingerSkipped := by
  have reached : (course core.phase false core.isLate).1 = .finalLinger := by
    cases core.phase <;> rfl
  constructor
  · unfold tick
    rw [if_pos ended, gone]
    split
    · exact (childOver_course _ false _).2.1.trans (beq_iff_eq.mpr reached)
    · exact (childOver_course _ false _).2.1.trans (beq_iff_eq.mpr reached)
  · rw [(tick_over core ended).2, gone]
    unfold ends
    rw [reached]
    simp

/-! ### What the list of outcomes says -/

theorem course_phase (phase : Phase) (attached late : Bool) :
    (course phase attached late).1 ≠ .replied ∧
      (course phase attached late).1 ≠ .panicCleanup := by
  cases phase <;> cases attached <;> cases late <;> simp [course]

theorem count_scrub_course (phase : Phase) (attached late : Bool) :
    (course phase attached late).2.count .scrubTempFiles ≤ 1 := by
  cases phase <;> cases attached <;> cases late <;> decide

theorem scrub_mem_course (phase : Phase) (attached late : Bool) :
    .scrubTempFiles ∈ (course phase attached late).2 ↔
      phase ≠ .finalLinger ∧ (course phase attached late).1 = .finalLinger ∧
        ¬ (phase = .replied ∧ attached) := by
  cases phase <;> cases attached <;> cases late <;> simp [course]

theorem panic_not_mem_course (phase : Phase) (attached late : Bool) :
    .panic ∉ (course phase attached late).2 := by
  cases phase <;> cases attached <;> cases late <;> simp [course]

/-- The extra commands of a tick with the command over are none of those that matter here. -/
theorem mem_tick_over (core : Core) {seen : Observation} (ended : seen.childExited)
    {command : Command} (matters : command = .scrubTempFiles ∨ command = .panic) :
    command ∈ (core.tick seen).2.commands ↔
      command ∈ (course core.phase seen.attached core.isLate).2 := by
  rw [(tick_over core ended).2]
  rcases matters with rfl | rfl <;> cases seen.urgent <;> cases core.ends seen.attached <;> simp

/-! ### What every tick keeps to -/

/-- No tick leads into the phase of an acknowledged report, nor does one stop before the cleanup. -/
theorem tick_phase {core : Core} {seen : Observation} {phase : Phase}
    (awaits : phase = .replied ∨ phase = .panicCleanup)
    (reached : (core.tick seen).1.phase = phase) : core.phase = phase := by
  cases ended : seen.childExited with
  | false => rwa [(tick_alive core ended).1] at reached
  | true =>
    rw [(tick_over core ended).1] at reached
    obtain ⟨notReplied, notCleanup⟩ := course_phase core.phase seen.attached core.isLate
    rcases awaits with rfl | rfl
    · exact absurd reached notReplied
    · exact absurd reached notCleanup

/-- The last phase is not left. -/
theorem tick_of_finalLinger {core : Core} (seen : Observation) (last : core.phase = .finalLinger) :
    (core.tick seen).1.phase = .finalLinger := by
  cases ended : seen.childExited with
  | false => rw [(tick_alive core ended).1, last]
  | true => rw [(tick_over core ended).1, last, course]

/-- The scrub is ordered once at most. -/
theorem count_scrub_tick (core : Core) (seen : Observation) :
    (core.tick seen).2.commands.count .scrubTempFiles ≤ 1 := by
  cases ended : seen.childExited with
  | false => rcases (tick_alive core ended).2 with same | same <;> simp [same]
  | true =>
    have once := count_scrub_course core.phase seen.attached core.isLate
    rw [(tick_over core ended).2]
    cases seen.urgent <;> cases core.ends seen.attached <;> simpa using once

/-- **The end is reached in one of two ways**: with the scrub ordered, or from an acknowledged
report with the session held. -/
theorem tick_finalLinger {core : Core} {seen : Observation}
    (reached : (core.tick seen).1.phase = .finalLinger) :
    core.phase = .finalLinger ∨ .scrubTempFiles ∈ (core.tick seen).2.commands ∨
      (core.phase = .replied ∧ seen.attached) := by
  cases ended : seen.childExited with
  | false =>
    rw [(tick_alive core ended).1] at reached
    exact Or.inl reached
  | true =>
    rw [(tick_over core ended).1] at reached
    rw [mem_tick_over core ended (Or.inl rfl), scrub_mem_course]
    by_cases before : core.phase = .finalLinger
    · exact Or.inl before
    · by_cases acknowledged : core.phase = .replied ∧ seen.attached
      · exact Or.inr (Or.inr acknowledged)
      · exact Or.inr (Or.inl ⟨before, reached, acknowledged⟩)

/-- The scrub is ordered only on the way into the last phase. -/
theorem scrub_mem_tick {core : Core} {seen : Observation}
    (ordered : .scrubTempFiles ∈ (core.tick seen).2.commands) :
    core.phase ≠ .finalLinger ∧ (core.tick seen).1.phase = .finalLinger := by
  cases ended : seen.childExited with
  | false => rcases (tick_alive core ended).2 with same | same <;> simp [same] at ordered
  | true =>
    rw [mem_tick_over core ended (Or.inl rfl), scrub_mem_course] at ordered
    exact ⟨ordered.1, (tick_over core ended).1.trans ordered.2.1⟩

/-- A panic is ordered alone. -/
theorem panic_mem_tick {core : Core} {seen : Observation}
    (ordered : .panic ∈ (core.tick seen).2.commands) :
    (core.tick seen).2.commands = [.panic] := by
  cases ended : seen.childExited with
  | false => rcases (tick_alive core ended).2 with same | same <;> simp_all
  | true =>
    rw [mem_tick_over core ended (Or.inr rfl)] at ordered
    exact absurd ordered (panic_not_mem_course _ _ _)

/-- A tick that ends the loop does so in the last phase or for a panic. -/
theorem tick_stops {core : Core} {seen : Observation}
    (stops : (core.tick seen).2.keepRunning = false) :
    (core.tick seen).1.phase = .finalLinger ∨ .panic ∈ (core.tick seen).2.commands := by
  cases ended : seen.childExited with
  | false => rcases (tick_alive core ended).2 with same | same <;> simp_all
  | true =>
    rw [(tick_over core ended).2] at stops
    rw [(tick_over core ended).1]
    simp only [ends, Bool.not_eq_false', Bool.and_eq_true, beq_iff_eq] at stops
    exact Or.inl stops.2

end Core

/-! ### The scrub stands behind the end of the session -/

/-- Whether, with the session held or not, each scrub comes when it no longer is. -/
def Guarded (attached : Bool) : List Command → Prop
  | [] => True
  | .scrubTempFiles :: rest => attached = false ∧ Guarded attached rest
  | .detachSession :: rest => Guarded false rest
  | .sendDone _ :: rest => Guarded attached rest
  | .clearUrgent :: rest => Guarded attached rest
  | .panic :: rest => Guarded attached rest
  | .finalLinger :: rest => Guarded attached rest

theorem guarded_false (commands : List Command) : Guarded false commands := by
  induction commands with
  | nil => trivial
  | cons command rest ih => cases command <;> simp [Guarded, ih]

/-- A session that is gone does no harm to the order. -/
theorem guarded_mono {held now : Bool} {commands : List Command} (less : now → held)
    (guarded : Guarded held commands) : Guarded now commands := by
  cases now with
  | false => exact guarded_false commands
  | true => rwa [less rfl] at guarded

/-- A tick orders the scrub behind the end of the session, provided that the session is gone when
the shutdown was sent to clean up. -/
theorem Core.guarded_tick (core : Core) (seen : Observation)
    (lost : core.phase = .panicCleanup → seen.attached = false) :
    Guarded seen.attached (core.tick seen).2.commands := by
  cases held : seen.attached with
  | false => exact guarded_false _
  | true =>
    cases ended : seen.childExited with
    | false => rcases (core.tick_alive ended).2 with same | same <;> simp [same, Guarded]
    | true =>
      have last (attached : Bool) :
          Guarded attached (if core.ends true then [.finalLinger] else []) := by
        split <;> simp [Guarded]
      rw [(core.tick_over ended).2, held]
      cases phase : core.phase <;> cases seen.urgent <;> cases core.isLate <;>
        simp_all [course, Guarded]

end LaunchSupervisor.Shutdown
