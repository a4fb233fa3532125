import LaunchSupervisor.Proofs.Shutdown.Tick
import Mathlib.Data.List.Induction

/-!
**What a shutdown keeps to, whatever happens.** Events come in any order and number, also after the
shutdown has said that it is over. A command that is given once is paid for by the phase: the phase
moves on with it and does not come back (`countP_commands_le`). What else the commands rest on is
kept in a `Ledger`.

* `orderly_run`: the statement, for every run from the start.
* `step_idle`, `sees_end_cases`: what an event can do that shows the command over, or does not.
* `Ledger.step`: one event more.
-/

namespace LaunchSupervisor.Shutdown

/-- Whether an event is a tick on which the command is over. -/
def Event.seesEnd : Event → Bool
  | .tick seen => seen.childExited
  | _ => false

theorem sees_end_cases {event : Event} (sawEnd : event.seesEnd) :
    ∃ seen, event = .tick seen ∧ seen.childExited := by
  cases event with
  | tick seen => exact ⟨seen, rfl, sawEnd⟩
  | doneReplied => cases sawEnd
  | doneFailed => cases sawEnd

/-- Whether a command is to report the end to the caller, with any status. -/
def Command.isReport : Command → Bool
  | .sendDone _ => true
  | _ => false

/-- Whether a command ends the shutdown. -/
def Command.isEnd : Command → Bool
  | .panic => true
  | .finalLinger => true
  | _ => false

/-! ### An end to the session stands behind a report -/

/-- Whether each order to give up the session has an order to report before it. -/
def Announced (commands : List Command) : Prop :=
  ∀ before after, commands = before ++ .detachSession :: after → .sendDone .done ∈ before

theorem announced_of_not_mem {commands : List Command} (none : .detachSession ∉ commands) :
    Announced commands := by
  intro before after split
  refine absurd ?_ none
  rw [split]
  exact List.mem_append_right _ List.mem_cons_self

theorem Announced.append {first second : List Command} (announced : Announced first)
    (more : .sendDone .done ∈ first ∨ Announced second) : Announced (first ++ second) := by
  intro before after split
  rcases List.append_eq_append_iff.mp split with ⟨between, same, rest⟩ |
    ⟨between, same, rest⟩
  · -- The end of the session is in the second part.
    rw [same]
    rcases more with early | late
    · exact List.mem_append_left _ early
    · exact List.mem_append_right _ (late between after rest)
  · cases between with
    | nil =>
      rw [List.append_nil] at same
      rw [← same]
      rcases more with early | late
      · exact early
      · exact absurd (late [] after rest.symm) List.not_mem_nil
    | cons command between =>
      obtain ⟨rfl, -⟩ := List.cons.inj rest
      exact announced before between same

namespace Core

/-! ### Runs from their end -/

/-- The state after some events. -/
def after (core : Core) (events : List Event) : Core :=
  (core.run events).1

/-- The commands of a run, in order. -/
def commands (core : Core) (events : List Event) : List Command :=
  (core.run events).2.flatMap fun answer => answer.commands

theorem after_concat (core : Core) (events : List Event) (event : Event) :
    core.after (events ++ [event]) = ((core.after events).step event).1 := by
  unfold after
  rw [run_append]
  rfl

theorem commands_concat (core : Core) (events : List Event) (event : Event) :
    core.commands (events ++ [event]) =
      core.commands events ++ ((core.after events).step event).2.commands := by
  unfold commands after
  rw [run_append, List.flatMap_append]
  simp [run]

/-! ### All that an event can do -/

/-- An event that does not show the command over orders a panic at most; the phase is moved by the
caller's verdict alone. -/
theorem step_idle (core : Core) {event : Event} (alive : event.seesEnd = false) :
    (core.step event).1.lingerSkipped = core.lingerSkipped ∧
      ((core.step event).2 = ⟨[], true⟩ ∨ (core.step event).2 = ⟨[.panic], false⟩) ∧
      ((core.step event).1.phase = core.phase ∨
        event = .doneReplied ∧ (core.step event).1.phase = core.phase.advance .replied ∨
        event = .doneFailed ∧ (core.step event).1.phase = core.phase.advance .panicCleanup) := by
  cases event with
  | tick seen =>
    obtain ⟨phase, answer⟩ := tick_alive core alive
    refine ⟨?_, answer, Or.inl phase⟩
    show (core.tick seen).1.lingerSkipped = core.lingerSkipped
    replace alive : seen.childExited = false := alive
    unfold tick
    simp only [alive, Bool.false_eq_true, if_false]
    split
    · split <;> rfl
    · rfl
  | doneReplied => exact ⟨rfl, Or.inl rfl, Or.inr (Or.inl ⟨rfl, rfl⟩)⟩
  | doneFailed => exact ⟨rfl, Or.inl rfl, Or.inr (Or.inr ⟨rfl, rfl⟩)⟩

/-- The extra pass is begun by a tick that comes out in the last phase, and by no other. -/
theorem lingerSkipped_tick_over (core : Core) {seen : Observation} (ended : seen.childExited) :
    (core.tick seen).1.lingerSkipped =
      (core.lingerSkipped || (course core.phase seen.attached core.isLate).1 == .finalLinger) := by
  obtain ⟨phase, _, ticks, skipped, _, limit⟩ := core
  unfold tick
  rw [if_pos ended]
  by_cases late : countUp ticks > limit <;> split <;>
    cases phase <;> cases seen.attached <;> cases skipped <;>
    simp +decide [childOver, Cascade.report, Cascade.awaitReply, Cascade.settle, Cascade.cleanUp,
      Cascade.finish, course, isLate, advance, Phase.advance, late]

theorem course_le (phase : Phase) (attached late : Bool) :
    phase ≤ (course phase attached late).1 := by
  cases phase <;> cases attached <;> cases late <;> decide

/-- **The phase never goes back.** -/
theorem phase_le_step (core : Core) (event : Event) : core.phase ≤ (core.step event).1.phase := by
  cases sawEnd : event.seesEnd with
  | true =>
    obtain ⟨seen, rfl, ended⟩ := sees_end_cases sawEnd
    show core.phase ≤ (core.tick seen).1.phase
    rw [(tick_over core ended).1]
    exact course_le _ _ _
  | false =>
    obtain ⟨-, -, same | ⟨-, moved⟩ | ⟨-, moved⟩⟩ := step_idle core sawEnd
    · rw [same]
      exact Nat.le_refl _
    · rw [moved]
      exact Phase.le_advance _ _
    · rw [moved]
      exact Phase.le_advance _ _

theorem phase_le_after (core : Core) (events more : List Event) :
    (core.after events).phase ≤ (core.after (events ++ more)).phase := by
  induction more using List.reverseRecOn with
  | nil =>
    rw [List.append_nil]
    exact Nat.le_refl _
  | append_singleton more event ih =>
    rw [← List.append_assoc, after_concat]
    exact Nat.le_trans ih (phase_le_step _ event)

/-! ### Commands that are given once -/

/-- **A kind of command that the phase pays for**: each step along the course gives no more of them
than it raises what was spent. -/
structure Rationed (kind : Command → Bool) (spent : Phase → Nat) : Prop where
  course : ∀ phase attached late,
    (course phase attached late).2.countP kind + spent phase ≤
      spent (course phase attached late).1
  mono : ∀ {early late : Phase}, early ≤ late → spent early ≤ spent late
  other : kind .clearUrgent = false ∧ kind .panic = false ∧ kind .finalLinger = false

theorem Rationed.step {kind : Command → Bool} {spent : Phase → Nat}
    (rationed : Rationed kind spent) (core : Core) (event : Event) :
    (core.step event).2.commands.countP kind + spent core.phase ≤
      spent (core.step event).1.phase := by
  obtain ⟨clear, panic, linger⟩ := rationed.other
  cases sawEnd : event.seesEnd with
  | true =>
    obtain ⟨seen, rfl, ended⟩ := sees_end_cases sawEnd
    show (core.tick seen).2.commands.countP kind + _ ≤ spent (core.tick seen).1.phase
    obtain ⟨phase, answer⟩ := tick_over core ended
    have paid := rationed.course core.phase seen.attached core.isLate
    rw [phase, answer]
    cases seen.urgent <;> cases core.ends seen.attached <;>
      simpa [List.countP_append, clear, linger] using paid
  | false =>
    have none : (core.step event).2.commands.countP kind = 0 := by
      obtain ⟨-, same | same, -⟩ := step_idle core sawEnd <;> simp [same, panic]
    rw [none, Nat.zero_add]
    exact rationed.mono (phase_le_step core event)

/-- **What was spent bounds what was given.** -/
theorem countP_commands_le {kind : Command → Bool} {spent : Phase → Nat}
    (rationed : Rationed kind spent) (core : Core) (events : List Event) :
    (core.commands events).countP kind + spent core.phase ≤ spent (core.after events).phase := by
  induction events using List.reverseRecOn with
  | nil => simp [commands, after, run]
  | append_singleton events event ih =>
    have more := rationed.step (core.after events) event
    rw [commands_concat, after_concat, List.countP_append]
    omega

/-- What a report costs is spent when the first phase is left. -/
theorem rationed_report :
    Rationed Command.isReport fun phase => if phase = .starting then 0 else 1 where
  course phase attached late := by
    cases phase <;> cases attached <;> cases late <;> decide
  mono {early late} := by
    cases early <;> cases late <;> decide
  other := by decide

/-- What belongs to the cleanup is spent when the last phase is entered. -/
theorem rationed_cleanup {command : Command}
    (cleanup : command = .detachSession ∨ command = .scrubTempFiles) :
    Rationed (· == command) fun phase => if phase = .finalLinger then 1 else 0 where
  course phase attached late := by
    rcases cleanup with rfl | rfl <;> cases phase <;> cases attached <;> cases late <;> decide
  mono {early late} := by
    cases early <;> cases late <;> decide
  other := by rcases cleanup with rfl | rfl <;> decide

/-! ### What the commands rest on -/

/-- Whether a tick on which the command was over has come out in the last phase. -/
def Entered (first : Core) (events : List Event) : Prop :=
  ∃ before seen after, events = before ++ .tick seen :: after ∧ seen.childExited ∧
    (first.after (before ++ [.tick seen])).phase = .finalLinger

theorem Entered.concat {first : Core} {events : List Event} (entered : Entered first events)
    (event : Event) : Entered first (events ++ [event]) := by
  obtain ⟨before, seen, after, split, ended, reached⟩ := entered
  exact ⟨before, seen, after ++ [event], by rw [split]; simp, ended, reached⟩

/-- **What the commands of a run rest on.** -/
structure Ledger (first : Core) (events : List Event) : Prop where
  announced : Announced (first.commands events)
  waiting : (first.after events).phase = .replyWait → .sendDone .done ∈ first.commands events
  replied : (first.after events).phase = .replied → .doneReplied ∈ events
  settled : (first.after events).phase = .finalLinger →
    .scrubTempFiles ∈ first.commands events ∨ .doneReplied ∈ events
  skipped : (first.after events).lingerSkipped →
    (first.after events).phase = .finalLinger ∧ Entered first events

theorem course_replyWait {phase : Phase} {attached late : Bool}
    (waits : (course phase attached late).1 = .replyWait) :
    phase = .replyWait ∨ .sendDone .done ∈ (course phase attached late).2 := by
  revert waits
  cases phase <;> cases attached <;> cases late <;> simp [course]

theorem detach_mem_course {phase : Phase} {attached late : Bool}
    (given : .detachSession ∈ (course phase attached late).2) :
    phase = .replyWait ∨
      ∃ rest, (course phase attached late).2 = [.sendDone .done, .detachSession] ++ rest := by
  revert given
  cases phase <;> cases attached <;> cases late <;> simp [course]

/-- A tick gives up the session when the wait is over, or behind a report of its own. -/
theorem announced_tick (core : Core) (seen : Observation) :
    core.phase = .replyWait ∨ Announced (core.tick seen).2.commands := by
  cases ended : seen.childExited with
  | false =>
    right
    apply announced_of_not_mem
    obtain ⟨-, same | same⟩ := tick_alive core ended <;> simp [same]
  | true =>
    rw [(tick_over core ended).2]
    by_cases given : .detachSession ∈ (course core.phase seen.attached core.isLate).2
    · refine (detach_mem_course given).imp_right ?_
      rintro ⟨rest, same⟩
      have early : Announced ((if seen.urgent then [.clearUrgent] else []) ++ [.sendDone .done]) :=
        announced_of_not_mem (by split <;> simp)
      have behind (later : List Command) : Announced
          (((if seen.urgent then [.clearUrgent] else []) ++ [.sendDone .done]) ++ later) :=
        early.append (Or.inl (List.mem_append_right _ List.mem_cons_self))
      simpa [same] using behind (.detachSession :: (rest ++
        (if core.ends seen.attached then [.finalLinger] else [])))
    · right
      apply announced_of_not_mem
      cases seen.urgent <;> cases core.ends seen.attached <;> simpa using given

/-- A report is ordered when the command is over and the session held, and says so. -/
theorem sendDone_mem_tick {core : Core} {seen : Observation} {status : ChildStatus}
    (ordered : .sendDone status ∈ (core.tick seen).2.commands) :
    seen.childExited ∧ seen.attached ∧ core.phase = .starting ∧ status = .done := by
  cases ended : seen.childExited with
  | false => obtain ⟨-, same | same⟩ := tick_alive core ended <;> simp [same] at ordered
  | true =>
    have given : .sendDone status ∈ (course core.phase seen.attached core.isLate).2 := by
      rw [(tick_over core ended).2] at ordered
      revert ordered
      cases seen.urgent <;> cases core.ends seen.attached <;> simp
    refine ⟨rfl, ?_⟩
    revert given
    cases core.phase <;> cases seen.attached <;> cases core.isLate <;> simp [course]

theorem sendDone_mem_step {core : Core} {event : Event} {status : ChildStatus}
    (ordered : .sendDone status ∈ (core.step event).2.commands) :
    ∃ seen, event = .tick seen ∧ seen.childExited ∧ seen.attached ∧
      core.phase = .starting ∧ status = .done := by
  cases event with
  | tick seen => exact ⟨seen, rfl, sendDone_mem_tick ordered⟩
  | doneReplied => cases ordered
  | doneFailed => cases ordered

namespace Ledger

variable {first : Core} {events : List Event}

/-- A tick keeps the ledger. -/
theorem tick (ledger : Ledger first events) (seen : Observation) :
    Ledger first (events ++ [.tick seen]) := by
  have next : first.after (events ++ [.tick seen]) = ((first.after events).tick seen).1 :=
    after_concat first events (.tick seen)
  have given : first.commands (events ++ [.tick seen]) =
      first.commands events ++ ((first.after events).tick seen).2.commands :=
    commands_concat first events (.tick seen)
  constructor
  · rw [given]
    exact ledger.announced.append ((announced_tick _ seen).imp_left ledger.waiting)
  · intro waits
    rw [given, List.mem_append]
    rw [next] at waits
    cases ended : seen.childExited with
    | false =>
      rw [(tick_alive _ ended).1] at waits
      exact Or.inl (ledger.waiting waits)
    | true =>
      obtain ⟨phase, answer⟩ := tick_over (first.after events) ended
      rw [phase] at waits
      refine (course_replyWait waits).imp ledger.waiting fun reports => ?_
      rw [answer]
      exact List.mem_append_left _ (List.mem_append_right _ reports)
  · intro replied
    rw [next] at replied
    exact List.mem_append_left _ (ledger.replied (tick_phase (Or.inl rfl) replied))
  · intro last
    rw [next] at last
    rw [given, List.mem_append, List.mem_append]
    rcases tick_finalLinger last with before | ordered | ⟨replied, -⟩
    · exact (ledger.settled before).imp Or.inl Or.inl
    · exact Or.inl (Or.inr ordered)
    · exact Or.inr (Or.inl (ledger.replied replied))
  · intro skipped
    rw [next] at skipped ⊢
    cases ended : seen.childExited with
    | false =>
      have same := (@step_idle (first.after events) (.tick seen) ended).1
      obtain ⟨last, entered⟩ := ledger.skipped (same.symm.trans skipped)
      exact ⟨tick_of_finalLinger seen last, entered.concat _⟩
    | true =>
      have reached : ((first.after events).tick seen).1.phase = .finalLinger := by
        rw [lingerSkipped_tick_over _ ended, Bool.or_eq_true, beq_iff_eq] at skipped
        rcases skipped with before | now
        · exact tick_of_finalLinger seen (ledger.skipped before).1
        · exact (tick_over _ ended).1.trans now
      refine ⟨reached, events, seen, [], rfl, ended, ?_⟩
      rw [next]
      exact reached

/-- So does the caller's verdict. -/
theorem verdict (ledger : Ledger first events) {event : Event}
    (told : event = .doneReplied ∨ event = .doneFailed) : Ledger first (events ++ [event]) := by
  have next := after_concat first events event
  have given : first.commands (events ++ [event]) = first.commands events := by
    rw [commands_concat]
    rcases told with rfl | rfl <;> simp [step]
  have phase : (first.after (events ++ [event])).phase =
      (first.after events).phase.advance (if event = .doneReplied then .replied else .panicCleanup)
      := by
    rw [next]
    rcases told with rfl | rfl <;> rfl
  constructor
  · rw [given]
    exact ledger.announced
  · intro waits
    rw [given]
    apply ledger.waiting
    rw [phase] at waits
    revert waits
    cases (first.after events).phase <;> split <;> simp +decide
  · intro replied
    rw [phase] at replied
    rcases told with rfl | rfl
    · exact List.mem_append_right _ List.mem_cons_self
    · refine List.mem_append_left _ (ledger.replied ?_)
      revert replied
      cases (first.after events).phase <;> simp +decide
  · intro last
    rw [given, List.mem_append]
    rw [phase] at last
    refine (ledger.settled ?_).imp_right Or.inl
    revert last
    cases (first.after events).phase <;> split <;> simp +decide
  · intro skipped
    have same : (first.after (events ++ [event])).lingerSkipped =
        (first.after events).lingerSkipped := by
      rw [next]
      rcases told with rfl | rfl <;> rfl
    obtain ⟨last, entered⟩ := ledger.skipped (same.symm.trans skipped)
    refine ⟨?_, entered.concat event⟩
    rw [phase, last]
    split <;> decide

theorem step (ledger : Ledger first events) (event : Event) : Ledger first (events ++ [event]) := by
  cases event with
  | tick seen => exact ledger.tick seen
  | doneReplied => exact ledger.verdict (Or.inl rfl)
  | doneFailed => exact ledger.verdict (Or.inr rfl)

end Ledger

/-- **The ledger of every run.** -/
theorem ledger_run (urgentLimit replyLimit : UInt32) (events : List Event) :
    Ledger (start urgentLimit replyLimit) events := by
  induction events using List.reverseRecOn with
  | nil =>
    refine ⟨announced_of_not_mem List.not_mem_nil, ?_, ?_, ?_, ?_⟩ <;> intro impossible <;>
      cases impossible
  | append_singleton events event ih => exact ih.step event

/-! ### How a shutdown ends -/

theorem isEnd_mem_course {phase : Phase} {attached late : Bool} {command : Command}
    (given : command ∈ (course phase attached late).2) : command.isEnd = false := by
  revert command
  cases phase <;> cases attached <;> cases late <;> decide

/-- **The command that ends the shutdown is the last of the last step**: either the loop goes on and
there is none, or it stops and there is one behind all others. -/
theorem ends_step (core : Core) (event : Event) :
    ((core.step event).2.keepRunning = true ∧
        ∀ command ∈ (core.step event).2.commands, command.isEnd = false) ∨
      ∃ others last, (core.step event).2 = ⟨others ++ [last], false⟩ ∧ last.isEnd ∧
        ∀ command ∈ others, command.isEnd = false := by
  cases sawEnd : event.seesEnd with
  | false =>
    obtain ⟨-, same | same, -⟩ := step_idle core sawEnd
    · exact Or.inl (by simp [same])
    · exact Or.inr ⟨[], .panic, by simp [same], rfl, by simp⟩
  | true =>
    obtain ⟨seen, rfl, ended⟩ := sees_end_cases sawEnd
    have answer : (core.step (.tick seen)).2 = _ := (tick_over core ended).2
    have ordinary : ∀ command ∈ (if seen.urgent then [.clearUrgent] else []) ++
        (course core.phase seen.attached core.isLate).2, command.isEnd = false := by
      intro command given
      rcases List.mem_append.mp given with clear | given
      · split at clear
        · rw [List.mem_singleton.mp clear]
          rfl
        · cases clear
      · exact isEnd_mem_course given
    cases ends : core.ends seen.attached with
    | false => exact Or.inl (by simpa [answer, ends] using ordinary)
    | true => exact Or.inr ⟨_, .finalLinger, by simp [answer, ends], rfl, ordinary⟩

/-- The shutdown is declared complete by a tick with the command over, in the extra pass. -/
theorem finalLinger_mem_step {core : Core} {event : Event}
    (given : .finalLinger ∈ (core.step event).2.commands) :
    event.seesEnd ∧ core.lingerSkipped := by
  cases sawEnd : event.seesEnd with
  | false => obtain ⟨-, same | same, -⟩ := step_idle core sawEnd <;> simp [same] at given
  | true =>
    obtain ⟨seen, rfl, ended⟩ := sees_end_cases sawEnd
    have answer : (core.step (.tick seen)).2 = _ := (tick_over core ended).2
    have other : .finalLinger ∉ (course core.phase seen.attached core.isLate).2 := by
      intro listed
      cases isEnd_mem_course listed
    refine ⟨rfl, ?_⟩
    cases skipped : core.lingerSkipped with
    | true => rfl
    | false =>
      have goesOn : core.ends seen.attached = false := by simp [ends, skipped]
      rw [answer, goesOn] at given
      cases seen.urgent <;> simp [other] at given

/-! ### The statement -/

/-- **A shutdown in good order.** -/
structure Orderly (first : Core) (events : List Event) : Prop where
  forward : ∀ more, (first.after events).phase ≤ (first.after (events ++ more)).phase
  /-- Each of these is ordered once at most. -/
  once : (first.commands events).countP Command.isReport ≤ 1 ∧
    (first.commands events).count .detachSession ≤ 1 ∧
    (first.commands events).count .scrubTempFiles ≤ 1
  report : ∀ event status, .sendDone status ∈ ((first.after events).step event).2.commands →
    ∃ seen, event = .tick seen ∧ seen.childExited ∧ seen.attached ∧
      (first.after events).phase = .starting ∧ status = .done
  announced : ∀ before after, first.commands events = before ++ .detachSession :: after →
    .sendDone .done ∈ before
  /-- The loop is left with the command that ends the shutdown, and with no other. -/
  stops : ∀ event, ((first.after events).step event).2.keepRunning = false ↔
    ∃ command, ((first.after events).step event).2.commands.getLast? = some command ∧
      command.isEnd
  atTheEnd : ∀ event, ∀ command ∈ ((first.after events).step event).2.commands.dropLast,
    command.isEnd = false
  settled : ∀ event, .finalLinger ∈ ((first.after events).step event).2.commands →
    .scrubTempFiles ∈ first.commands events ∨ .doneReplied ∈ events
  lingered : ∀ event, .finalLinger ∈ ((first.after events).step event).2.commands →
    event.seesEnd ∧ Entered first events

/-- **Every shutdown is in good order,** whatever events come, and whatever comes after its end. -/
theorem orderly_run (urgentLimit replyLimit : UInt32) (events : List Event) :
    Orderly (start urgentLimit replyLimit) events := by
  have ledger := ledger_run urgentLimit replyLimit events
  have reports := countP_commands_le rationed_report (start urgentLimit replyLimit) events
  have detaches := countP_commands_le (rationed_cleanup (Or.inl rfl))
    (start urgentLimit replyLimit) events
  have scrubs := countP_commands_le (rationed_cleanup (Or.inr rfl))
    (start urgentLimit replyLimit) events
  refine ⟨phase_le_after _ events, ⟨?_, ?_, ?_⟩, fun _ _ => sendDone_mem_step,
    ledger.announced,
    fun event => ?_, fun event command given => ?_, fun event given => ?_, fun event given => ?_⟩
  · refine Nat.le_trans (Nat.le_of_add_right_le reports) ?_
    split <;> decide
  · refine Nat.le_trans (Nat.le_of_add_right_le detaches) ?_
    split <;> decide
  · refine Nat.le_trans (Nat.le_of_add_right_le scrubs) ?_
    split <;> decide
  · rcases ends_step ((start urgentLimit replyLimit).after events) event with
      ⟨goesOn, ordinary⟩ | ⟨others, last, answer, isLast, -⟩
    · constructor
      · intro stops
        rw [goesOn] at stops
        cases stops
      · rintro ⟨command, last, isEnd⟩
        rw [ordinary command (List.mem_of_getLast? last)] at isEnd
        cases isEnd
    · simp [answer, isLast]
  · rcases ends_step ((start urgentLimit replyLimit).after events) event with
      ⟨-, ordinary⟩ | ⟨others, last, answer, -, ordinary⟩
    · exact ordinary command ((List.dropLast_sublist _).subset given)
    · rw [answer, List.dropLast_concat] at given
      exact ordinary command given
  · exact ledger.settled (ledger.skipped (finalLinger_mem_step given).2).1
  · obtain ⟨sawEnd, skipped⟩ := finalLinger_mem_step given
    exact ⟨sawEnd, (ledger.skipped skipped).2⟩

end Core

end LaunchSupervisor.Shutdown
