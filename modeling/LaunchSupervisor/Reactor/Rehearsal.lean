import LaunchSupervisor.Reactor.Run

/-!
**Rehearsals.** A rehearsal is a run with a plan: what happens before each pass over the bus, and
how the caller answers what it is sent. Nothing else happens, so a poll that nothing cuts short
lasts its full time.

* `advance_isFinished`: a rehearsal that has ended stays as it is.
-/

namespace LaunchSupervisor.Reactor

/-- What happens just before a pass over the bus. -/
structure Pass where
  calls : List SignalCall := []
  arrivals : List Bus.Taken := []

/-- A rehearsal under way. -/
structure Rehearsal (φ : Type) where
  reactor : Reactor φ
  /-- What happens before the passes that are still to come. -/
  passes : List Pass
  /-- The state in which the caller answers each message, if it answers. -/
  answer : Option Bus.MessageState
  /-- How many calls of the connection have been looked at for messages to answer. -/
  seen : Nat := 0
  /-- How many passes there were. -/
  count : Nat := 0
  /-- The answers of the handlers so far. -/
  actions : List (Option HandlerAction) := []

namespace Rehearsal

variable {φ : Type} [FileSystem φ]

/-- Accesses the flags one call after the other, and keeps the answers. -/
def access (rehearsal : Rehearsal φ) (calls : List SignalCall) : Rehearsal φ :=
  calls.foldl
    (fun rehearsal call =>
      { rehearsal with
        reactor := rehearsal.reactor.access call
        actions := rehearsal.actions ++ [(rehearsal.reactor.signals.apply call).1] })
    rehearsal

/-- The calls of the connection. -/
def calls (rehearsal : Rehearsal φ) : List Bus.Call :=
  match rehearsal.reactor.session with
  | none => []
  | some session => session.connection.calls

/-- The answer to a call of the connection: a message that was sent is replied to. -/
def answerTo? (state : Bus.MessageState) : Bus.Call → Option Bus.Taken
  | .send (.message message) true => some (.ok (some (.reply message.id state .ok)))
  | _ => none

/-- The answers to what was sent since the last pass. -/
def answers (rehearsal : Rehearsal φ) : List Bus.Taken :=
  match rehearsal.answer with
  | none => []
  | some state => (rehearsal.calls.drop rehearsal.seen).filterMap (answerTo? state)

/-- Lets happen what happens before the next pass. -/
def prepare (rehearsal : Rehearsal φ) : Rehearsal φ :=
  let pass := rehearsal.passes.headD {}
  let accessed := rehearsal.access pass.calls
  { accessed with
    reactor := accessed.reactor.arrive (rehearsal.answers ++ pass.arrivals)
    passes := rehearsal.passes.tail
    seen := rehearsal.calls.length
    count := rehearsal.count + 1 }

/-- The rehearsal after the reactor's next action. -/
def act (rehearsal : Rehearsal φ) : Rehearsal φ :=
  { rehearsal with reactor := rehearsal.reactor.apply .act }

/-- Lets so much time go by. -/
def elapse (rehearsal : Rehearsal φ) (milliseconds : Nat) : Rehearsal φ :=
  { rehearsal with reactor := rehearsal.reactor.apply (.elapse milliseconds) }

/-- The next thing that happens. -/
def advance (rehearsal : Rehearsal φ) : Rehearsal φ :=
  match rehearsal.reactor.stage with
  | .opening => if rehearsal.reactor.attached then rehearsal.prepare.act else rehearsal.act
  | .waiting deadline =>
    match rehearsal.reactor.wakeUp? deadline with
    | some _ => rehearsal.act
    | none => (rehearsal.elapse (deadline - rehearsal.reactor.now)).act
  | _ => rehearsal.act

/-- Goes on until the run has ended, for at most so many steps. -/
def advanceWithin : Nat → Rehearsal φ → Rehearsal φ
  | 0, rehearsal => rehearsal
  | steps + 1, rehearsal =>
    if rehearsal.reactor.isFinished then rehearsal else advanceWithin steps rehearsal.advance

/-- More steps than a run takes whose shutdown begins with the last planned pass at the latest. -/
def stepBound (rehearsal : Rehearsal φ) : Nat :=
  let arrivals := (rehearsal.passes.flatMap fun pass => pass.arrivals).length
  let tunables := rehearsal.reactor.tunables
  let output := (rehearsal.reactor.stderr.map fun pipe => pipe.volume).getD 0
  64 * (rehearsal.passes.length + tunables.urgentTicks.toNat + tunables.replyTicks.toNat + output +
    16) + 4 * arrivals

/-- The rehearsal after some accesses to the flags and the run that follows. -/
def run (rehearsal : Rehearsal φ) (calls : List SignalCall) : Rehearsal φ :=
  advanceWithin rehearsal.stepBound (rehearsal.access calls)

theorem advance_isFinished {rehearsal : Rehearsal φ} (finished : rehearsal.reactor.isFinished) :
    rehearsal.advance = rehearsal := by
  have same : rehearsal.reactor.apply .act = rehearsal.reactor := by simp [apply, finished]
  unfold isFinished at finished
  unfold advance
  split at finished
  · rename_i exit stage
    simp [stage, act, same]
  · cases finished

end Rehearsal

end LaunchSupervisor.Reactor
