import LaunchSupervisor.Reactor.Step

/-!
**Runs of the reactor.** A run is a list of events: the reactor's own actions, handlers that run
between them, and whatever else happens meanwhile, in any order.

* `run_append`: a run over two lists of events is the one run after the other.
* `finished_run`: nothing changes how a run has ended.
-/

namespace LaunchSupervisor.Reactor

/-- Something that happens during a run. -/
inductive Event where
  /-- The reactor takes its next action. -/
  | act
  /-- A handler runs, and puts a byte into the signal pipe if the process goes on. -/
  | handler (call : SignalCall)
  /-- A flag is accessed otherwise. -/
  | access (call : SignalCall)
  /-- Something arrives from the bus. -/
  | arrive (items : List Bus.Taken)
  /-- The bus shows itself ready. -/
  | busReady
  /-- The next thing happens at the other end of the command's error output. -/
  | child
  | elapse (milliseconds : Nat)

variable {φ : Type}

/-- The reactor after an access to the flags. -/
def access (reactor : Reactor φ) (call : SignalCall) : Reactor φ :=
  { reactor with signals := (reactor.signals.apply call).2 }

/-- The reactor after something has arrived. -/
def arrive (reactor : Reactor φ) (items : List Bus.Taken) : Reactor φ :=
  reactor.onSession fun session => { session with connection := session.connection.arrive items }

/-- The pipe after the next thing that happens to it. -/
def happen (pipe : Pipe) : Pipe :=
  match pipe.later with
  | [] => pipe
  | event :: rest => Pipe.after { pipe with later := rest } event

variable [FileSystem φ]

/-- The reactor after a handler has run. -/
def handle (reactor : Reactor φ) (call : SignalCall) : Reactor φ :=
  let accessed := reactor.access call
  match (reactor.signals.apply call).1 with
  | none => accessed
  | some .resume => { accessed with wake := accessed.wake.map WakePipe.poke }
  | some .exit => accessed.goto (.finished .atOnce)
  | some .scrubAndExit =>
    { accessed with
      files := accessed.tempFiles.foldl scrubFile accessed.files, stage := .finished .atOnce }

/-- Whether a run has ended. -/
def isFinished (reactor : Reactor φ) : Bool :=
  match reactor.stage with
  | .finished _ => true
  | _ => false

/-- The reactor after an event; once the run has ended nothing counts. -/
def apply (reactor : Reactor φ) (event : Event) : Reactor φ :=
  if reactor.isFinished then reactor
  else
    match event with
    | .act => reactor.step
    | .handler call => reactor.handle call
    | .access call => reactor.access call
    | .arrive items => reactor.arrive items
    | .busReady => { reactor with busReady := true }
    | .child => { reactor with stderr := reactor.stderr.map happen }
    | .elapse milliseconds => { reactor with now := reactor.now + milliseconds }

/-- The reactor after a list of events. -/
def run (reactor : Reactor φ) (events : List Event) : Reactor φ :=
  events.foldl apply reactor

theorem run_append (reactor : Reactor φ) (first second : List Event) :
    reactor.run (first ++ second) = (reactor.run first).run second := by
  simp [run]

theorem finished_run {reactor : Reactor φ} (finished : reactor.isFinished) (events : List Event) :
    reactor.run events = reactor := by
  induction events with
  | nil => rfl
  | cons event rest ih =>
    have same : reactor.apply event = reactor := by simp [apply, finished]
    simpa [run, same] using ih

end LaunchSupervisor.Reactor
