import LaunchSupervisor.Files.Tree
import LaunchSupervisor.Proofs.Reactor.LastPass
import LaunchSupervisor.Proofs.Stderr.Capture
import Mathlib

/-!
**How much of the error output is captured.** The command's error output is logged from its
beginning, without a gap. What is missing in the end is missing from its end: once the pipe is
closed, every time that the reactor sees to it brings as many bytes as it takes at a time, and no
more.

* `captured_eq_written_iff`: exactly when all of the error output is captured.
* `captured_append_unread`: what is captured and what is not are together what was written.
* `captured_run_of_closed`: what a reactor captures from a closed pipe.
-/

namespace LaunchSupervisor.Reactor

open PipeEvent (written closesLast)

variable {φ : Type}

/-- The bytes that were logged under the tag of the error output. -/
def captured (reactor : Reactor φ) : List UInt8 :=
  (reactor.log.filter (·.1 == reactor.stderrTag)).flatMap (·.2)

/-- The bytes that the pipe holds or will hold. -/
def unread (reactor : Reactor φ) : List UInt8 :=
  reactor.stderr.elim [] Pipe.contents

/-- The most that is captured at a time. -/
def block (reactor : Reactor φ) : Nat :=
  max reactor.tunables.flushCeiling 1

/-! ### What one event does to the error output -/

/-- What the capture rests on is left as it is. -/
structure Still (before after : Reactor φ) : Prop where
  tunables : after.tunables = before.tunables
  stderr : after.stderr = before.stderr
  stderrTag : after.stderrTag = before.stderrTag
  log : after.log = before.log

variable [FileSystem φ]

theorem still_scrub (reactor : Reactor φ) (stage : Stage) :
    Still reactor (reactor.scrub.goto stage) := by
  rw [scrub_eq]
  exact ⟨rfl, rfl, rfl, rfl⟩

theorem still_step {reactor : Reactor φ} (elsewhere : reactor.stage ≠ .serving .stderr) :
    Still reactor reactor.step := by
  cases stage : reactor.stage with
  | waiting deadline =>
    simp only [step, stage]
    rw [await_eq]
    exact ⟨rfl, rfl, rfl, rfl⟩
  | serving wake =>
    simp only [step, stage]
    cases wake with
    | stderr => exact absurd stage elsewhere
    | signal | bus | timeout => exact ⟨rfl, rfl, rfl, rfl⟩
  | receiving learnt =>
    simp only [step, stage]
    rw [receiveNext_eq]
    exact ⟨rfl, rfl, rfl, rfl⟩
  | learning learnt =>
    cases learnt with
    | nil =>
      simp only [step, stage]
      exact ⟨rfl, rfl, rfl, rfl⟩
    | cons event rest =>
      simp only [step, stage]
      rw [learn_eq]
      exact ⟨rfl, rfl, rfl, rfl⟩
  | executing commands keepRunning =>
    cases commands with
    | nil => cases keepRunning <;> simp only [step, stage] <;> exact ⟨rfl, rfl, rfl, rfl⟩
    | cons command rest =>
      simp only [step, stage]
      cases command with
      | scrubTempFiles => exact still_scrub reactor _
      | _ => exact ⟨rfl, rfl, rfl, rfl⟩
  | panicking =>
    simp only [step, stage, panic]
    split
    · exact ⟨rfl, rfl, rfl, rfl⟩
    · exact still_scrub reactor _
  | finished exit =>
    rw [step_finished stage]
    exact ⟨rfl, rfl, rfl, rfl⟩
  | _ =>
    simp only [step, stage]
    exact ⟨rfl, rfl, rfl, rfl⟩

/-- **What an event does to the capture.** -/
inductive Flow (reactor : Reactor φ) : Event → Reactor φ → Prop where
  | still {event : Event} {next : Reactor φ} (other : reactor.isDrain event = false)
    (still : Still reactor next) : Flow reactor event next
  | child : Flow reactor .child { reactor with stderr := reactor.stderr.map happen }
  | drain (stage : reactor.stage = .serving .stderr) :
    Flow reactor .act (reactor.drainStderr.goto .opening)

theorem flow_apply (reactor : Reactor φ) (event : Event) :
    Flow reactor event (reactor.apply event) := by
  by_cases acts : event = .act
  · subst acts
    rw [apply_act]
    by_cases stage : reactor.stage = .serving .stderr
    · have drained : reactor.step = reactor.drainStderr.goto .opening := by
        simp only [step, stage, serve]
      rw [drained]
      exact .drain stage
    · exact .still (decide_eq_false stage) (still_step stage)
  · have other : reactor.isDrain event = false := by
      cases event with
      | act => exact absurd rfl acts
      | _ => rfl
    have outside := outside_apply reactor acts
    generalize reactor.apply event = next at outside
    cases outside with
    | child => exact .child
    | ended | flags | exit | arrive | busReady | elapse =>
      exact .still other ⟨rfl, rfl, rfl, rfl⟩

/-! ### What the pipe goes through -/

section

omit [FileSystem φ]

theorem contents_happen (pipe : Pipe) : (happen pipe).contents = pipe.contents := by
  unfold happen
  split
  · rfl
  · rename_i event rest next
    exact Pipe.contents_after pipe next

theorem settles_happen {pipe : Pipe} (settles : pipe.Settles) : (happen pipe).Settles := by
  unfold happen
  split
  · exact settles
  · rename_i event rest next
    exact Pipe.settles_after settles next

/-- Nothing happens to a closed pipe. -/
theorem happen_of_closed {pipe : Pipe} (settles : pipe.Settles) (closed : pipe.closed) :
    happen pipe = pipe := by
  unfold happen
  rw [settles.2 closed]

theorem Still.captured {before after : Reactor φ} (still : Still before after) :
    after.captured = before.captured := by
  unfold Reactor.captured
  rw [still.log, still.stderrTag]

theorem Still.unread {before after : Reactor φ} (still : Still before after) :
    after.unread = before.unread := by
  unfold Reactor.unread
  rw [still.stderr]

theorem unread_child (reactor : Reactor φ) :
    ({ reactor with stderr := reactor.stderr.map happen } : Reactor φ).unread =
      reactor.unread := by
  unfold Reactor.unread
  cases reactor.stderr with
  | none => rfl
  | some pipe => exact contents_happen pipe

/-- What is handed over is logged under the tag of the error output. -/
theorem captured_drainStderr {reactor : Reactor φ} {pipe : Pipe}
    (piped : reactor.stderr = some pipe) :
    reactor.drainStderr.captured =
      reactor.captured ++ (pipe.drain reactor.tunables.flushCeiling).1.data := by
  unfold drainStderr Reactor.captured
  rw [piped]
  dsimp only
  split
  · rename_i nothing
    rw [List.isEmpty_iff.mp nothing, List.append_nil]
  · simp

theorem tunables_goto_drainStderr (reactor : Reactor φ) (stage : Stage) :
    (reactor.drainStderr.goto stage).tunables = reactor.tunables := by
  rw [drainStderr_eq]
  rfl

theorem drainStderr_none {reactor : Reactor φ} (piped : reactor.stderr = none) :
    reactor.drainStderr = reactor := by
  unfold drainStderr
  rw [piped]

/-- A pipe that is left is what the drain has left. -/
theorem mem_stderr_drainStderr {reactor : Reactor φ} {pipe rest : Pipe}
    (piped : reactor.stderr = some pipe) (left : rest ∈ reactor.drainStderr.stderr) :
    rest = (pipe.drain reactor.tunables.flushCeiling).2 := by
  unfold drainStderr at left
  rw [piped] at left
  dsimp only at left
  split at left
  · cases left
  · cases left
    rfl

/-- What is left is what the drain has left, also if the pipe is let go. -/
theorem unread_drainStderr {reactor : Reactor φ} {pipe : Pipe}
    (piped : reactor.stderr = some pipe) (settles : pipe.Settles) :
    reactor.drainStderr.unread = (pipe.drain reactor.tunables.flushCeiling).2.contents := by
  have used := Pipe.contents_of_drain_closed reactor.tunables.flushCeiling settles
  unfold drainStderr Reactor.unread
  rw [piped]
  dsimp only
  split
  · rename_i closed
    exact (used closed).symm
  · rfl

end

theorem tunables_apply (reactor : Reactor φ) (event : Event) :
    (reactor.apply event).tunables = reactor.tunables := by
  have flow := flow_apply reactor event
  generalize reactor.apply event = next at flow
  cases flow with
  | still _ still => exact still.tunables
  | child => rfl
  | drain stage => exact tunables_goto_drainStderr reactor _

theorem tunables_run (reactor : Reactor φ) (events : List Event) :
    (reactor.run events).tunables = reactor.tunables :=
  run_induction reactor (motive := fun _ later => later.tunables = reactor.tunables) rfl
    (fun _ event same => (tunables_apply _ event).trans same) events

/-! ### Nothing is lost on the way -/

/-- **The account of the capture**: what is captured and what is not are together what was written,
and nothing happens to the pipe once it is closed. -/
structure Gapless (whole : List UInt8) (reactor : Reactor φ) : Prop where
  whole : reactor.captured ++ reactor.unread = whole
  settles : ∀ pipe ∈ reactor.stderr, pipe.Settles

theorem Gapless.apply {whole : List UInt8} {reactor : Reactor φ} (gapless : Gapless whole reactor)
    (event : Event) : Gapless whole (reactor.apply event) := by
  have flow := flow_apply reactor event
  generalize reactor.apply event = next at flow
  cases flow with
  | still _ still =>
    refine ⟨?_, ?_⟩
    · rw [still.captured, still.unread, gapless.whole]
    · rw [still.stderr]
      exact gapless.settles
  | child =>
    refine ⟨?_, ?_⟩
    · rw [unread_child]
      exact gapless.whole
    · intro pipe left
      obtain ⟨held, piped, rfl⟩ := Option.map_eq_some_iff.mp left
      exact settles_happen (gapless.settles held piped)
  | drain stage =>
    cases piped : reactor.stderr with
    | none =>
      rw [drainStderr_none piped]
      exact ⟨gapless.whole, gapless.settles⟩
    | some pipe =>
      have settles := gapless.settles pipe piped
      refine ⟨?_, ?_⟩
      · show reactor.drainStderr.captured ++ reactor.drainStderr.unread = _
        rw [captured_drainStderr piped, unread_drainStderr piped settles, List.append_assoc,
          Pipe.contents_drain, ← gapless.whole]
        unfold Reactor.unread
        rw [piped]
        rfl
      · intro rest left
        rw [mem_stderr_drainStderr piped left]
        exact Pipe.settles_drain _ settles

theorem Gapless.run {whole : List UInt8} {reactor : Reactor φ} (gapless : Gapless whole reactor)
    (events : List Event) : Gapless whole (reactor.run events) :=
  run_induction reactor (motive := fun _ reactor => Gapless whole reactor) gapless
    (fun _ event ih => ih.apply event) events

omit [FileSystem φ] in
theorem gapless_start {setup : Setup φ} {history : List PipeEvent}
    (piped : setup.stderr = some (.ofHistory history)) (last : closesLast history) :
    Gapless (written history) (start setup) := by
  have held : (start setup).stderr = some (.ofHistory history) := piped
  refine ⟨?_, ?_⟩
  · unfold Reactor.unread
    rw [held]
    exact Pipe.contents_ofHistory history
  · intro pipe left
    rw [held] at left
    cases left
    exact Pipe.settles_ofHistory last

/-! ### What is captured from a closed pipe -/

/-- **One event, with the pipe closed**: a drain takes a block from the front. -/
theorem apply_of_closed {whole : List UInt8} {reactor : Reactor φ}
    (gapless : Gapless whole reactor)
    (closed : ∀ pipe ∈ reactor.stderr, pipe.closed) (event : Event) :
    (reactor.apply event).captured =
        reactor.captured ++ reactor.unread.take ((reactor.isDrain event).toNat * reactor.block) ∧
      (reactor.apply event).unread =
        reactor.unread.drop ((reactor.isDrain event).toNat * reactor.block) ∧
      (reactor.apply event).block = reactor.block ∧
      ∀ pipe ∈ (reactor.apply event).stderr, pipe.closed := by
  have flow := flow_apply reactor event
  generalize reactor.apply event = next at flow
  cases flow with
  | still other still =>
    rw [other, still.captured, still.unread, still.stderr, Bool.toNat_false, Nat.zero_mul,
      List.take_zero, List.append_nil, List.drop_zero]
    refine ⟨rfl, rfl, ?_, closed⟩
    unfold block
    rw [still.tunables]
  | child =>
    have same : reactor.stderr.map happen = reactor.stderr := by
      cases piped : reactor.stderr with
      | none => rfl
      | some pipe =>
        rw [Option.map_some, happen_of_closed (gapless.settles pipe piped) (closed pipe piped)]
    have idle : reactor.isDrain .child = false := rfl
    rw [same, idle, Bool.toNat_false, Nat.zero_mul, List.take_zero, List.append_nil, List.drop_zero]
    exact ⟨rfl, rfl, rfl, closed⟩
  | drain stage =>
    have busy : reactor.isDrain .act = true := decide_eq_true stage
    rw [busy, Bool.toNat_true, Nat.one_mul]
    cases piped : reactor.stderr with
    | none =>
      have nothing : reactor.unread = [] := by
        unfold unread
        rw [piped]
        rfl
      rw [drainStderr_none piped, nothing, List.take_nil, List.append_nil, List.drop_nil]
      exact ⟨rfl, nothing, rfl, closed⟩
    | some pipe =>
      have settles := gapless.settles pipe piped
      obtain ⟨taken, left, still⟩ :=
        Pipe.drain_closed reactor.tunables.flushCeiling settles (closed pipe piped)
      have held : reactor.unread = pipe.contents := by
        unfold unread
        rw [piped]
        rfl
      rw [held]
      refine ⟨(captured_drainStderr piped).trans ?_,
        (unread_drainStderr piped settles).trans left, ?_, ?_⟩
      · rw [taken]
        rfl
      · unfold block
        rw [tunables_goto_drainStderr]
      · intro rest kept
        rw [mem_stderr_drainStderr piped kept]
        exact still

/-- **What a reactor captures from a closed pipe**: a block each time that it sees to it. -/
theorem captured_run_of_closed {whole : List UInt8} {reactor : Reactor φ}
    (gapless : Gapless whole reactor) (closed : ∀ pipe ∈ reactor.stderr, pipe.closed)
    (events : List Event) :
    (reactor.run events).captured =
      reactor.captured ++ reactor.unread.take (reactor.drains events * reactor.block) := by
  -- From the first event on, since each drain takes from what the one before has left.
  induction events generalizing reactor with
  | nil => simp [run, drains]
  | cons event rest ih =>
    obtain ⟨captured, unread, block, still⟩ := apply_of_closed gapless closed event
    show ((reactor.apply event).run rest).captured = _
    rw [ih (gapless.apply event) still, captured, unread, block, List.append_assoc, drains,
      Nat.add_mul, List.take_add]

/-! ### The statement -/

/-- **Exactly when all of the error output is captured.** With the pipe closed before the command is
seen to be over, the reactor must see to it often enough from then on; without a session it does so
once at most. What is captured otherwise lacks the end. -/
theorem captured_eq_written_iff {setup : Setup φ} {history : List PipeEvent}
    (piped : setup.stderr = some (.ofHistory history)) (last : closesLast history)
    {before : List Event} (seen : ((start setup).run before).stage = .seeExited)
    (exited : ((start setup).run before).signals.childExited)
    (closed : ∀ pipe ∈ ((start setup).run before).stderr, pipe.closed) (after : List Event) :
    ((start setup).run (before ++ after)).captured <+: written history ∧
      (((start setup).run (before ++ after)).captured = written history ↔
        ((start setup).run before).unread.length ≤
          ((start setup).run before).drains after * max setup.tunables.flushCeiling 1) ∧
      (((start setup).run before).attached = false →
        ((start setup).run before).drains after ≤ 1) := by
  have gapless := (gapless_start piped last).run before
  have block : ((start setup).run before).block = max setup.tunables.flushCeiling 1 := by
    unfold block
    rw [tunables_run]
    rfl
  rw [run_append, captured_run_of_closed gapless closed, block, ← gapless.whole]
  refine ⟨?_, ?_, fun gone => drains_le_one seen exited gone after⟩
  · exact (List.prefix_append_right_inj _).mpr (List.take_prefix _ _)
  · rw [List.append_cancel_left_eq, List.take_eq_self_iff]

/-! ### Output that is lost -/

/-- Three bytes and the end of the output. -/
def burst : List PipeEvent :=
  [.wrote [97, 98, 99], .closed]

/-- A setup that takes one byte at a time, for a command that is over. -/
def burstSetup : Setup Tree :=
  { tunables := { ({} : Settings).tunables with flushCeiling := 1 }
    signals := { childExited := true }
    stderr := some (.ofHistory burst)
    files := .empty }

/-- All is written and the pipe is closed before the first iteration; the events up to the look at
the command. -/
def burstRun : List Event :=
  .child :: .child :: List.replicate 10 .act

theorem burst_seen :
    ((start burstSetup).run burstRun).stage = .seeExited ∧
      ((start burstSetup).run burstRun).signals.childExited ∧
      ∀ pipe ∈ ((start burstSetup).run burstRun).stderr, pipe.closed := by
  have stage : ((start burstSetup).run burstRun).stage = .seeExited := by cbv
  have exited : ((start burstSetup).run burstRun).signals.childExited = true := by cbv
  have piped : ((start burstSetup).run burstRun).stderr = some ⟨[98, 99], true, []⟩ := by cbv
  refine ⟨stage, exited, fun pipe left => ?_⟩
  rw [piped] at left
  cases left
  rfl

theorem burst_completed :
    ((start burstSetup).run (burstRun ++ List.replicate 24 .act)).stage = .finished .completed := by
  cbv

theorem burst_captured :
    ((start burstSetup).run (burstRun ++ List.replicate 24 .act)).captured = [97, 98] := by
  cbv

/-- The last byte is missing from a completed run. -/
theorem completed_lacks_end :
    (∀ pipe ∈ ((start burstSetup).run burstRun).stderr, pipe.closed) ∧
      ((start burstSetup).run burstRun).stage = .seeExited ∧
      ((start burstSetup).run (burstRun ++ List.replicate 24 .act)).stage = .finished .completed ∧
      ((start burstSetup).run (burstRun ++ List.replicate 24 .act)).captured ≠ written burst := by
  refine ⟨burst_seen.2.2, burst_seen.1, burst_completed, ?_⟩
  rw [burst_captured]
  decide

/-- It was not seen to often enough. -/
theorem seldom_drained :
    (((start burstSetup).run burstRun).stage = .seeExited ∧
      ((start burstSetup).run burstRun).signals.childExited ∧
      ∀ pipe ∈ ((start burstSetup).run burstRun).stderr, pipe.closed) ∧
      ¬ ((start burstSetup).run burstRun).unread.length ≤
        ((start burstSetup).run burstRun).drains (List.replicate 24 .act) * 1 := by
  obtain ⟨seen, exited, closed⟩ := burst_seen
  refine ⟨⟨seen, exited, closed⟩, fun enough => ?_⟩
  have all := (captured_eq_written_iff rfl rfl seen exited closed (List.replicate 24 .act)).2.1.mpr
    enough
  rw [burst_captured] at all
  cases all

end LaunchSupervisor.Reactor
