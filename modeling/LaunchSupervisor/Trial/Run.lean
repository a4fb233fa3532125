import LaunchSupervisor.Diagnostics
import LaunchSupervisor.Files.Disk
import LaunchSupervisor.Supervisor
import LaunchSupervisor.Trial.Command
import LaunchSupervisor.Trial.Launcher
import LaunchSupervisor.Trial.Processes

/-!
**Trials.** A trial is a whole run of the supervisor over files, a launcher and a command that are
all made up. The reactor acts at once whenever something wakes it; otherwise time goes by until the
command's next deed or the end of the poll, whichever is first.

* `run_misuse`: a command line that asks for nothing that can be done changes no file.
-/

namespace LaunchSupervisor

/-- What a supervisor meets with. -/
structure World where
  files : Disk
  environment : Environment
  /-- How the launcher treats the supervisor; none if nobody listens. -/
  launcher : Option Trial.Manner := none

/-- A trial under way. -/
structure Trial where
  reactor : Reactor Disk
  /-- What the command has yet to do, in order. -/
  script : List Trial.Timed
  launcher : Option Trial.Manner
  errorLog : ErrorLog
  /-- Whether the command's error output goes to the supervisor. -/
  captured : Bool
  /-- How many calls of the connection the launcher has seen. -/
  seen : Nat := 0
  /-- How many entries of the error log have been written. -/
  written : Nat := 0
  /-- The processes of the command. -/
  processes : List Trial.Running := []
  /-- Whether the command is over. -/
  finished : Bool := false
  output : List UInt8 := []
  /-- The text on the supervisor's error output, and on the command's if it is the same. -/
  complaint : List UInt8 := []

namespace Trial

/-- The time that entries of the error log are given. -/
def timestamp : String := "1970-01-01 00:00:00"

/-- Does something to the files. -/
def onFiles (trial : Trial) (act : Disk → Disk) : Trial :=
  { trial with reactor := { trial.reactor with files := act trial.reactor.files } }

/-- Does something to the pipe from the command's error output. -/
def onPipe (trial : Trial) (event : PipeEvent) : Trial :=
  { trial with
    reactor := { trial.reactor with stderr := trial.reactor.stderr.map (·.after event) } }

/-- A handler runs. -/
def handle (trial : Trial) (call : SignalCall) : Trial :=
  { trial with reactor := trial.reactor.handle call }

/-- Something that the command does. -/
def perform (trial : Trial) : Deed → Trial
  | .output bytes => { trial with output := trial.output ++ bytes }
  | .complaint bytes =>
    if trial.captured then trial.onPipe (.wrote bytes)
    else { trial with complaint := trial.complaint ++ bytes }
  | .make path => trial.onFiles fun files => (FileSystem.write files path []).2
  | .extend path bytes => trial.onFiles fun files => (FileSystem.append files path bytes).2
  | .signal signal => trial.handle (signal.call trial.finished)
  | .become process program =>
    { trial with processes := Running.become trial.processes process program }
  | .vanish process => { trial with processes := Running.vanish trial.processes process }
  | .silence => trial.onPipe .closed
  | .finish => { trial with finished := true }.handle (.graceful .terminated)

/-- Time goes by until some moment, unless that is past. -/
def passTo (trial : Trial) (moment : Nat) : Trial :=
  { trial with reactor := { trial.reactor with now := max trial.reactor.now moment } }

/-- Whether a handler has ended the process. -/
def isEnded (trial : Trial) : Bool :=
  trial.reactor.stage == .finished .atOnce

/-- The command goes on with its deeds until something holds. -/
def carryOn (stop : Trial → Bool) (trial : Trial) : List Timed → Trial
  | [] => { trial with script := [] }
  | next :: rest =>
    if stop trial then { trial with script := next :: rest }
    else carryOn stop ((trial.passTo next.time).perform next.deed) rest

/-! ### The launcher and the error log -/

/-- The calls of the connection. -/
def calls (trial : Trial) : List Bus.Call :=
  match trial.reactor.session with
  | none => []
  | some session => session.connection.calls

/-- What the launcher answers to the calls it has not seen yet. -/
def answers (trial : Trial) : List Bus.Taken :=
  match trial.launcher with
  | none => []
  | some manner => (trial.calls.drop trial.seen).filterMap manner.answer?

/-- The launcher answers at once. -/
def reply (trial : Trial) : Trial :=
  let answered := { trial with seen := trial.calls.length }
  match trial.answers with
  | [] => answered
  | answers => { answered with reactor := { trial.reactor.arrive answers with busReady := true } }

/-- Writes an entry of the error log. -/
def writeEntry (trial : Trial) (tag : String) (body : List UInt8) : Trial :=
  let (kept, files) := trial.errorLog.write trial.reactor.files timestamp tag body
  { trial with
    reactor := { trial.reactor with files }, complaint := trial.complaint ++ kept }

/-- Writes the entries that the reactor has handed over since the last time. -/
def writeEntries (trial : Trial) : Trial :=
  let noted := { trial with written := trial.reactor.log.length }
  (trial.reactor.log.drop trial.written).foldl
    (fun trial (tag, body) => trial.writeEntry tag body) noted

/-! ### A burst of error output -/

/-- Whether the drain of the error output has all that it waits for. -/
def isSated (trial : Trial) : Bool :=
  trial.isEnded ||
    match trial.reactor.stderr with
    | none => true
    | some pipe =>
      pipe.closed || decide (trial.reactor.tunables.flushCeiling ≤ pipe.buffered.length)

/-- The time until which a drain waits for more. -/
def patience (trial : Trial) : Nat :=
  trial.reactor.now + trial.reactor.tunables.shortPoll

/-- What is done while the error output is drained, which goes on until a pause. -/
def burst (deadline : Nat) (trial : Trial) : List Timed → Trial
  | [] =>
    if trial.isSated then { trial with script := [] }
    else { trial with script := [] }.passTo deadline
  | next :: rest =>
    if trial.isSated then { trial with script := next :: rest }
    else if deadline < next.time then { trial with script := next :: rest }.passTo deadline
    else
      let done := (trial.passTo next.time).perform next.deed
      match next.deed with
      | .complaint _ => burst done.patience done rest
      | _ => burst deadline done rest

/-! ### The run of the reactor -/

/-- The files with the command's processes among them. -/
def filesSeen (trial : Trial) : Disk :=
  if trial.finished then trial.reactor.files
  else Running.shownIn trial.reactor.files Shell.commandPid trial.processes

/-- The reactor after its next action; a look at the command's processes changes no file. -/
def reactorActed (trial : Trial) : Reactor Disk :=
  if trial.reactor.stage = .noticing then
    let looked := Reactor.apply { trial.reactor with files := trial.filesSeen } .act
    { looked with files := trial.reactor.files }
  else trial.reactor.apply .act

/-- The reactor takes its next action. -/
def act (trial : Trial) : Trial :=
  ({ trial with reactor := trial.reactorActed }).reply.writeEntries

/-- The next thing that happens while the reactor waits. -/
def wait (trial : Trial) (deadline : Nat) : Trial :=
  match trial.reactor.wakeUp? deadline, trial.script with
  | some _, _ => trial.act
  | none, [] => (trial.passTo deadline).act
  | none, next :: rest =>
    if next.time ≤ deadline then
      ({ trial with script := rest }.passTo next.time).perform next.deed
    else (trial.passTo deadline).act

/-- The next thing that happens. -/
def advance (trial : Trial) : Trial :=
  match trial.reactor.stage with
  | .waiting deadline => trial.wait deadline
  | .serving .stderr => (burst trial.patience trial trial.script).act
  | _ => trial.act

/-- Goes on until the reactor has ended, for at most so many steps. -/
def advanceWithin : Nat → Trial → Trial
  | 0, trial => trial
  | steps + 1, trial =>
    if trial.reactor.isFinished then trial else advanceWithin steps trial.advance

/-- The time of the command's last deed. -/
def lastTime (script : List Timed) : Nat :=
  (script.map (·.time)).foldl max 0

/-- More steps than a run of the reactor takes. -/
def stepBound (trial : Trial) : Nat :=
  let tunables := trial.reactor.tunables
  64 * (2 * trial.script.length + tunables.urgentTicks.toNat + tunables.replyTicks.toNat +
    lastTime trial.script / max tunables.shortPoll 1 + 16)

/-! ### The end of the process -/

/-- What the process leaves behind. -/
structure Outcome where
  /-- The code it exits with; none if it stays for ever. -/
  code : Option Int
  output : List UInt8
  complaint : List UInt8
  /-- What the launcher has received. -/
  frames : Option (List Bus.Frame)
  files : Disk

/-- Waits for the command to be over, and then takes leave. -/
def leave (request : Request) (trial : Trial) : Option Int × Trial :=
  match trial.reactor.stage with
  | .finished exit =>
    let signals := trial.reactor.signals
    let waited :=
      if exit = .completed ∧ trial.script ≠ [] then
        carryOn (fun trial => trial.finished || trial.isEnded) trial trial.script
      else trial
    if waited.isEnded then (some 0, waited)
    else
      match Supervisor.farewell request exit signals 0 (some (waited.reactor.now / 1000)) with
      | .exit code => (some code, waited)
      | .linger =>
        let lingered := carryOn isEnded waited waited.script
        (if lingered.isEnded then some 0 else none, lingered)
  | _ => (none, trial)

/-- Whether a deed needs no supervisor. -/
def isOwn : Timed → Bool
  | ⟨_, .output _⟩ => true
  | ⟨_, .complaint _⟩ => true
  | ⟨_, .make _⟩ => true
  | ⟨_, .extend _ _⟩ => true
  | ⟨_, .signal _⟩ => false
  | ⟨_, .become _ _⟩ => false
  | ⟨_, .vanish _⟩ => false
  | ⟨_, .silence⟩ => false
  | ⟨_, .finish⟩ => false

/-- What the command does when the supervisor is gone. -/
def aftermath (trial : Trial) : Trial :=
  carryOn (fun _ => false) trial (trial.script.filter isOwn)

/-! ### The start of the process -/

/-- The longest path that names an endpoint. -/
def longestEndpoint : Nat := 107

/-- Why nobody can be reached at an endpoint where nobody listens. -/
def dialFault (files : Disk) (endpoint : Path) : SystemError :=
  if longestEndpoint < endpoint.bytes.length then .endpointTooLong
  else
    match files.find endpoint with
    | .ok _ => .refused
    | .error cause => cause

/-- Asks the launcher to be let in. -/
def connect (world : World) : Except Bus.Fault Bus.Socket × Bus.Wire :=
  match world.launcher, world.environment.busSocket with
  | some manner, _ => Bus.Socket.connect manner.wire
  | none, none => (.error Supervisor.noEndpoint, { incoming := [] })
  | none, some endpoint =>
    let cause := dialFault world.files endpoint
    (.error (.notConnected (endpoint.display ++ ": " ++ cause.message)), { incoming := [] })

/-- The connection that carries frames once the launcher has let the supervisor in. -/
def connection (socket : Bus.Socket) : Bus.Scripted :=
  { procid := socket.procid, session := socket.session }

/-- The session with the caller, or why there is none. -/
def attach (world : World) (request : Request) : Except Bus.Fault (Option (Session Bus.Scripted)) :=
  match request.caller with
  | none => .ok none
  | some caller =>
    match (connect world).1 with
    | .ok socket => .ok (some (Supervisor.introduce (connection socket) caller))
    | .error fault => .error fault

/-- What a call of the connection brings to the launcher. -/
def frame? (session : String) : Bus.Call → Option Bus.Frame
  | .send frame true => some frame
  | .send _ false => none
  | .take => none
  | .close => some (.quit session)

/-- The frames that the launcher has received. -/
def received (request : Request) (trial : Trial) : List Bus.Frame :=
  if request.caller.isNone then []
  else .openRequest :: trial.calls.filterMap (frame? Manner.session)

/-- A trial before the reactor's first action. -/
def start (world : World) (program : Argument) (request : Request) : Trial :=
  let files := Diagnostics.note world.files world.environment.supervisorLog []
  let tunables := Tunables.resolve files world.environment
  let spawner : ScriptedSpawner := { script := [.ok Shell.commandPid] }
  let (launch, spawned) := Launch.launch spawner request tunables true
  let plans := spawned.calls.filterMap fun | .spawn plan => some plan | .pause _ => none
  let session := attach world request
  let setup :=
    Supervisor.setup program request tunables launch (session.toOption.join) files
  let trial : Trial :=
    { reactor := Reactor.start setup
      script := plans.flatMap deedsOf
      launcher := world.launcher
      errorLog := .inDirectory world.environment.personalDirectory (.ofNat Shell.supervisorPid)
      captured := launch.holdsStderr }
  match session with
  | .ok _ => trial.reply
  | .error fault => trial.writeEntry ErrorLog.supervisorTag (Supervisor.standaloneEntry fault)

/-- What a trial leaves behind. -/
def outcome (world : World) (request : Request) (code : Option Int) (trial : Trial) : Outcome :=
  { code
    output := trial.output
    complaint := trial.complaint
    frames := world.launcher.map fun _ => received request trial
    files := trial.reactor.files }

/-- The outcome of a command line that asks for nothing that can be done. -/
def misused (world : World) (program : Argument) (fault : UsageError) : Outcome :=
  { code := some fault.exitCode
    output := []
    complaint := Utf8.bytes (Request.usage program)
    frames := world.launcher.map fun _ => []
    files := world.files }

/-- A whole run of the supervisor, called by a program name and with some arguments. -/
def run (world : World) (program : Argument) (arguments : List Argument) : Outcome :=
  match Request.parse arguments with
  | .error fault => misused world program fault
  | .ok request =>
    let trial := start world program request
    let (code, left) := leave request (advanceWithin trial.stepBound trial)
    outcome world request code left.aftermath

/-! ### Small facts -/

theorem run_misuse (world : World) (program : Argument) {arguments : List Argument}
    {fault : UsageError} (misuse : Request.parse arguments = .error fault) :
    (run world program arguments).files = world.files := by
  simp [run, misuse, misused]

end Trial

end LaunchSupervisor
