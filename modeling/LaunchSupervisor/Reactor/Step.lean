import LaunchSupervisor.Reactor.Basic

/-!
**One action of the reactor.** Each stage has one action, after which handlers may run. In a wait
the signal pipe comes first, then the bus, then the error output, and last the end of the poll.

* `step_finished`: a run that has ended does nothing more.
* `wakeUp?_early`: a poll does not end before its time without a reason.
-/

namespace LaunchSupervisor.Reactor

variable {φ : Type}

/-! ### Waiting -/

/-- How long to poll. -/
def pollTimeout (reactor : Reactor φ) (short : Bool) : Nat :=
  let tunables := reactor.tunables
  let base := if short then tunables.shortPoll else tunables.longPoll
  let base := if !reactor.watching && reactor.attached then min base tunables.shortPoll else base
  reactor.notice.clamp reactor.now base

/-- What wakes the reactor now, if anything does. -/
def wakeUp? (reactor : Reactor φ) (deadline : Nat) : Option Wake :=
  if reactor.wake.any (·.readable) then some .signal
  else if reactor.watching && reactor.busReady then some .bus
  else if reactor.stderr.any (·.readable) then some .stderr
  else if deadline ≤ reactor.now then some .timeout
  else none

/-- Waits: readiness of the bus is used up by being noticed. -/
def await (reactor : Reactor φ) (deadline : Nat) : Reactor φ :=
  match reactor.wakeUp? deadline with
  | none => reactor
  | some .bus => { reactor with busReady := false, stage := .serving .bus }
  | some wake => reactor.goto (.serving wake)

/-! ### Taking in -/

/-- Collects error output and hands it to the log. -/
def drainStderr (reactor : Reactor φ) : Reactor φ :=
  match reactor.stderr with
  | none => reactor
  | some pipe =>
    let (drained, rest) := pipe.drain reactor.tunables.flushCeiling
    { reactor with
      log :=
        if drained.data.isEmpty then reactor.log
        else reactor.log ++ [(reactor.stderrTag, drained.data)]
      stderr := if drained.closed then none else some rest }

/-- Sees to what has woken the reactor. -/
def serve (reactor : Reactor φ) : Wake → Reactor φ
  | .signal => { reactor with wake := reactor.wake.bind WakePipe.drained }
  | .stderr => reactor.drainStderr
  | .bus => reactor
  | .timeout => reactor

/-- Receives one frame. -/
def receiveNext (reactor : Reactor φ) (learnt : List SessionEvent) : Reactor φ :=
  match reactor.session with
  | none => reactor.goto (.learning learnt)
  | some session =>
    match session.receiveNext with
    | (more, event, session) =>
      let learnt := learnt ++ event.toList
      { reactor with
        session := some session
        stage := if more then .receiving learnt else .learning learnt }

/-- The event of the shutdown that something learnt stands for. -/
def eventOf? : SessionEvent → Option Shutdown.Event
  | .doneReplied => some .doneReplied
  | .doneFailed => some .doneFailed
  | .detached => none

/-- Tells the shutdown what was learnt. Such an event brings no commands. -/
def learn (reactor : Reactor φ) (learnt : SessionEvent) : Reactor φ :=
  match eventOf? learnt with
  | none => reactor
  | some event => { reactor with core := (reactor.core.step event).1 }

/-! ### Carrying out commands -/

variable [FileSystem φ]

/-- Tries to give a file to its owner alone and to remove it. -/
def scrubFile (files : φ) (path : Path) : φ :=
  (FileSystem.remove (FileSystem.restrict files path).2 path).2

/-- Tries to remove the temp files, each in turn, once in a run. -/
def scrub (reactor : Reactor φ) : Reactor φ :=
  if reactor.scrubbed then reactor
  else { reactor with scrubbed := true, files := reactor.tempFiles.foldl scrubFile reactor.files }

/-- Carries out a command, with others still to come. -/
def execute (reactor : Reactor φ) (command : Shutdown.Command)
    (rest : List Shutdown.Command) (keepRunning : Bool) : Reactor φ :=
  match command with
  | .sendDone status =>
    (reactor.onSession (·.reportDone status)).goto (.realigning rest keepRunning)
  | .detachSession => (reactor.onSession Session.detach).goto (.realigning rest keepRunning)
  | .scrubTempFiles => reactor.scrub.goto (.executing rest keepRunning)
  | .clearUrgent =>
    { reactor with
      signals := { reactor.signals with urgent := false }
      stage := .executing rest keepRunning }
  | .panic => reactor.goto .panicking
  | .finalLinger => reactor.goto (.executing rest keepRunning)

/-- Feeds the shutdown a tick. -/
def tick (reactor : Reactor φ) (exited urgent : Bool) : Reactor φ :=
  let (core, step) := reactor.core.tick ⟨exited, urgent, reactor.attached⟩
  { reactor with core, stage := .publishing step }

/-- Gives the notice to the icon cache if it is due. -/
def giveNotice (reactor : Reactor φ) : Reactor φ :=
  let (notice, session) := reactor.notice.runIfDue reactor.now reactor.session reactor.files
  { reactor with notice, session, stage := .noticed }

/-- Tells a caller that can be told that the command has failed; cleans up otherwise. -/
def panic (reactor : Reactor φ) : Reactor φ :=
  if reactor.attached then (reactor.onSession (·.reportDone .failed)).goto .panicDetaching
  else reactor.scrub.goto .panicked

/-! ### One action -/

/-- The reactor after its next action. -/
def step (reactor : Reactor φ) : Reactor φ :=
  match reactor.stage with
  | .top => reactor.goto (if reactor.signals.panic then .panicking else .pollExited)
  | .pollExited => reactor.goto (if reactor.signals.childExited then .poll true else .pollUrgent)
  | .pollUrgent => reactor.goto (.poll reactor.signals.urgent)
  | .poll short => reactor.goto (.waiting (reactor.now + reactor.pollTimeout short))
  | .waiting deadline => reactor.await deadline
  | .serving wake => (reactor.serve wake).goto .opening
  | .opening => reactor.goto (if reactor.attached then .receiving [] else .learning [])
  | .receiving learnt => reactor.receiveNext learnt
  | .learning (event :: rest) => (reactor.learn event).goto (.learning rest)
  | .learning [] => reactor.sync.goto .recheck
  | .recheck => reactor.goto (if reactor.signals.panic then .panicking else .noticing)
  | .noticing => reactor.giveNotice
  | .noticed => reactor.sync.goto .seeExited
  | .seeExited => reactor.goto (.seeUrgent reactor.signals.childExited)
  | .seeUrgent exited => reactor.goto (.ticking exited reactor.signals.urgent)
  | .ticking exited urgent => reactor.tick exited urgent
  | .publishing step =>
    { reactor with
      signals := { reactor.signals with phase := reactor.core.phase }
      stage := .executing step.commands step.keepRunning }
  | .executing (command :: rest) keepRunning => reactor.execute command rest keepRunning
  | .executing [] true => reactor.goto .top
  | .executing [] false => reactor.goto .leaving
  | .realigning rest keepRunning => reactor.sync.goto (.executing rest keepRunning)
  | .leaving => (reactor.onSession Session.detach).goto .left
  | .left => reactor.sync.goto (.finished .completed)
  | .panicking => reactor.panic
  | .panicDetaching => (reactor.onSession Session.detach).goto .panicked
  | .panicked => reactor.sync.goto (.finished .panicked)
  | .finished _ => reactor

theorem step_finished {reactor : Reactor φ} {exit : Exit}
    (finished : reactor.stage = .finished exit) : reactor.step = reactor := by
  simp [step, finished]

omit [FileSystem φ] in
theorem wakeUp?_early {reactor : Reactor φ} {deadline : Nat} (early : reactor.now < deadline) :
    reactor.wakeUp? deadline ≠ some .timeout := by
  have late : ¬ deadline ≤ reactor.now := Nat.not_le.mpr early
  simp only [wakeUp?, late, if_false]
  repeat' split
  all_goals simp

end LaunchSupervisor.Reactor
