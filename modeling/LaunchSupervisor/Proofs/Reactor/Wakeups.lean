import LaunchSupervisor.Files.Tree
import LaunchSupervisor.Proofs.Reactor.History
import LaunchSupervisor.Proofs.Shutdown.Handlers
import LaunchSupervisor.Supervisor

/-!
**No wake-up is lost.** A handler raises its flag and then puts a byte into the pipe; the reactor
empties the pipe and then looks at the flags. So when it waits and the pipe is empty, whatever flag
is up was read as such after it was raised. `Alert` is what this rests on, stage by stage, over any
interleaving of handlers with the reactor's actions.

* `quiet_handle`: a handler that lets the process go on leaves a byte in the pipe.
* `Alert.act`, `Alert.outside`: what one event keeps.
* `alert_run`: it holds along every run.
* `announced_setup`: what a supervisor gives its reactor to start with.
* `wakeup_not_lost`: what that means while the reactor waits.
-/

namespace LaunchSupervisor

/-- **A pipe is not empty once a byte was put in**, or was dropped because the pipe was full. -/
theorem WakePipe.bytes_poke (pipe : WakePipe) : 0 < pipe.poke.bytes := by
  unfold poke capacity
  split
  · exact Nat.succ_pos _
  · omega

namespace Reactor

variable {φ : Type}

/-! ### Flags and signals -/

/-- A flag of which the reactor takes notice in a tick. -/
inductive Flag where
  | exited
  | urgent
deriving DecidableEq

namespace Flag

/-- Whether the flag is up. -/
def isUp (signals : SignalState) : Flag → Bool
  | .exited => signals.childExited
  | .urgent => signals.urgent

/-- Whether the reactor reads the flag for a tick with its next action. -/
def isObserved : Flag → Stage → Bool
  | .exited, .seeExited => true
  | .urgent, .seeUrgent _ => true
  | _, _ => false

/-- Whether the reactor reads the flag with its next action to choose how long it polls. -/
def isPolled : Flag → Stage → Bool
  | .exited, .pollExited => true
  | .urgent, .pollUrgent => true
  | _, _ => false

end Flag

/-- Whether an event raises a flag. -/
def Event.raises (flag : Flag) : Event → Bool
  | .handler (.graceful .terminated) => flag = .exited
  | .handler (.graceful .noChildren) => flag = .exited
  | .handler .urgent => flag = .urgent
  | _ => false

/-- Whether an event leaves the flags alone, unless it is the delivery of a signal. -/
def Event.isRouted : Event → Bool
  | .handler call => call.isSignal
  | .access _ => false
  | _ => true

namespace Stage

/-- Whether the reactor is about to wait or waits. -/
def isPolling : Stage → Bool
  | .pollExited => true
  | .pollUrgent => true
  | .poll _ => true
  | .waiting _ => true
  | _ => false

/-- Whether the reactor has chosen how long it polls, and has not been woken. -/
def isChosen : Stage → Bool
  | .poll _ => true
  | .waiting _ => true
  | _ => false

theorem isPolling_of_isChosen {stage : Stage} (chosen : stage.isChosen) : stage.isPolling := by
  cases stage with
  | poll | waiting => rfl
  | _ => cases chosen

/-- Whether the flags were read for a tick that is not over. -/
def isActing : Stage → Bool
  | .ticking _ _ => true
  | .publishing _ => true
  | .executing _ _ => true
  | .realigning _ _ => true
  | _ => false

/-- Whether the reactor is at the beginning of an iteration. -/
def isBeginning : Stage → Bool
  | .top => true
  | .pollExited => true
  | _ => false

end Stage

/-- Whether the reactor has the pipe, with nothing in it. -/
def isQuiet (reactor : Reactor φ) : Bool :=
  reactor.wake.any fun pipe => pipe.bytes == 0

variable [FileSystem φ]

/-- **A handler that lets the process go on leaves a byte in the pipe**, or finds it full. -/
theorem quiet_handle (reactor : Reactor φ) {call : SignalCall} (signal : call.isSignal) :
    (reactor.handle call).stage = .finished .atOnce ∨ (reactor.handle call).isQuiet = false := by
  unfold handle
  cases answer : (reactor.signals.apply call).1 with
  | none => exact absurd answer (reactor.signals.answer_of_isSignal signal)
  | some action =>
    cases action with
    | resume =>
      refine Or.inr ?_
      simp only [isQuiet, access]
      cases reactor.wake with
      | none => rfl
      | some pipe => simpa using (Nat.ne_of_gt pipe.bytes_poke)
    | exit => exact Or.inl rfl
    | scrubAndExit => exact Or.inl rfl

/-! ### Flags that were read -/

/-- **The reactor has taken notice of a flag**: it has read the flag as up, for a tick or to choose
how long the poll lasts that it is in, and nothing has raised the flag since. -/
def Noticed (first : Reactor φ) (events : List Event) (flag : Flag) : Prop :=
  ∃ before after, events = before ++ .act :: after ∧ flag.isUp (first.run before).signals ∧
    (∀ event ∈ after, event.raises flag = false) ∧
    (flag.isObserved (first.run before).stage ∨
      flag.isPolled (first.run before).stage ∧
        ∀ middle, middle <+: after → (first.run (before ++ .act :: middle)).stage.isPolling)

theorem Noticed.concat {first : Reactor φ} {events : List Event} {flag : Flag}
    (noticed : Noticed first events flag) {event : Event} (calm : event.raises flag = false)
    (still : (first.run events).stage.isPolling →
      ((first.run events).apply event).stage.isPolling) :
    Noticed first (events ++ [event]) flag := by
  obtain ⟨before, after, split, up, since, how⟩ := noticed
  refine ⟨before, after ++ [event], by rw [split]; simp, up, ?_, how.imp_right ?_⟩
  · intro later among
    rcases List.mem_append.mp among with earlier | last
    · exact since later earlier
    · rw [List.mem_singleton.mp last]
      exact calm
  · rintro ⟨polled, polling⟩
    refine ⟨polled, fun middle started => ?_⟩
    rcases List.prefix_concat_iff.mp (by simpa using started) with whole | earlier
    · have here := polling after (List.prefix_refl after)
      rw [← split] at here
      rw [whole, ← List.cons_append, ← List.append_assoc, ← split, run_concat]
      exact still here
    · exact polling middle earlier

/-- A flag that is read with the next action. -/
theorem Noticed.now {first reactor : Reactor φ} {events : List Event}
    (here : first.run events = reactor) {flag : Flag} (up : flag.isUp reactor.signals)
    (how : flag.isObserved reactor.stage ∨
      flag.isPolled reactor.stage ∧ reactor.step.stage.isPolling) :
    Noticed first (events ++ [.act]) flag := by
  subst here
  refine ⟨events, [], rfl, up, nofun, how.imp_right ?_⟩
  rintro ⟨polled, polling⟩
  refine ⟨polled, fun middle started => ?_⟩
  rw [List.prefix_nil.mp started, run_concat, apply_act]
  exact polling

/-! ### What the reactor relies on -/

/-- **What holds when the pipe is empty**, on the way to a wait and back. -/
structure Alert (first : Reactor φ) (events : List Event) (reactor : Reactor φ) : Prop where
  /-- No panic is asked for from the look at that flag to the end of the wait. -/
  panic : reactor.isQuiet → reactor.stage.isPolling → reactor.signals.panic = false
  /-- The second flag is looked at only if the first one is not up. -/
  alive : reactor.isQuiet → reactor.stage = .pollUrgent → reactor.signals.childExited = false
  chosen : reactor.isQuiet → reactor.stage.isChosen →
    ∀ flag : Flag, flag.isUp reactor.signals → Noticed first events flag
  acting : reactor.isQuiet → reactor.stage.isActing → reactor.signals.urgent →
    Noticed first events .urgent
  /-- With the first flag up the second one will not be looked at before the wait. -/
  beginning : reactor.isQuiet → reactor.stage.isBeginning → reactor.signals.urgent →
    reactor.signals.childExited → Noticed first events .urgent
  /-- With a flag up the poll is a short one. -/
  short : reactor.isQuiet → (reactor.signals.childExited ∨ reactor.signals.urgent) →
    reactor.stage ≠ .poll false
  soon : reactor.isQuiet → (reactor.signals.childExited ∨ reactor.signals.urgent) →
    ∀ deadline, reactor.stage = .waiting deadline →
      deadline ≤ reactor.now + reactor.tunables.shortPoll

/-- Whether nothing is relied on at a stage: the flags are to be read before the next wait, or
there is none. -/
def Stage.isAside (stage : Stage) : Bool :=
  !(stage.isPolling || stage.isActing || stage.isBeginning)

section

variable {first reactor next : Reactor φ} {events : List Event}

theorem Alert.of_loud (loud : reactor.isQuiet = false) : Alert first events reactor := by
  constructor <;> simp [loud]

/-- Away from a poll only the second flag matters. -/
theorem Alert.of_idle (idle : reactor.stage.isPolling = false)
    (acting : reactor.isQuiet → reactor.stage.isActing → reactor.signals.urgent →
      Noticed first events .urgent)
    (beginning : reactor.isQuiet → reactor.stage.isBeginning → reactor.signals.urgent →
      reactor.signals.childExited → Noticed first events .urgent) :
    Alert first events reactor where
  panic _ polling := by simp [idle] at polling
  alive _ stage := by simp [stage, Stage.isPolling] at idle
  chosen _ chosen := by simp [Stage.isPolling_of_isChosen chosen] at idle
  acting := acting
  beginning := beginning
  short _ _ stage := by simp [stage, Stage.isPolling] at idle
  soon _ _ _ stage := by simp [stage, Stage.isPolling] at idle

theorem Alert.of_aside (aside : reactor.stage.isAside) : Alert first events reactor := by
  simp only [Stage.isAside, Bool.not_eq_true', Bool.or_eq_false_iff] at aside
  obtain ⟨⟨idle, passive⟩, under⟩ := aside
  refine .of_idle idle (fun _ acting => ?_) (fun _ beginning => ?_)
  · simp [passive] at acting
  · simp [under] at beginning

/-- What happens elsewhere, while the flags and the pipe are left alone. -/
theorem Alert.elsewhere (alert : Alert first events reactor) (here : first.run events = reactor)
    (event : Event) (happens : reactor.apply event = next)
    (calm : ∀ flag, event.raises flag = false) (wake : next.wake = reactor.wake)
    (signals : next.signals = reactor.signals) (stage : next.stage = reactor.stage)
    (tunables : next.tunables = reactor.tunables) (later : reactor.now ≤ next.now) :
    Alert first (events ++ [event]) next := by
  have kept {flag : Flag} (noticed : Noticed first events flag) :
      Noticed first (events ++ [event]) flag :=
    noticed.concat (calm flag) (by rw [here, happens, stage]; exact id)
  have quiet (empty : next.isQuiet) : reactor.isQuiet := by
    rwa [isQuiet, wake] at empty
  exact {
    panic := by
      rw [stage, signals]
      exact fun empty => alert.panic (quiet empty)
    alive := by
      rw [stage, signals]
      exact fun empty => alert.alive (quiet empty)
    chosen := by
      rw [stage, signals]
      exact fun empty chosen flag up => kept (alert.chosen (quiet empty) chosen flag up)
    acting := by
      rw [stage, signals]
      exact fun empty acting up => kept (alert.acting (quiet empty) acting up)
    beginning := by
      rw [stage, signals]
      exact fun empty beginning up ended => kept (alert.beginning (quiet empty) beginning up ended)
    short := by
      rw [stage, signals]
      exact fun empty => alert.short (quiet empty)
    soon := by
      rw [stage, signals, tunables]
      intro empty up deadline waits
      have soon := alert.soon (quiet empty) up deadline waits
      omega }

/-- **What happens outside the reactor** keeps what it relies on, if flags are raised by handlers
only: these leave a byte in the pipe. -/
theorem Alert.outside (alert : Alert first events (first.run events)) {event : Event}
    (outside : event ≠ .act) (routed : event.isRouted) :
    Alert first (events ++ [event]) ((first.run events).apply event) := by
  by_cases ended : (first.run events).isFinished
  · have finished : ∃ exit, (first.run events).stage = .finished exit := by
      unfold isFinished at ended
      split at ended
      · exact ⟨_, by assumption⟩
      · cases ended
    obtain ⟨exit, finished⟩ := finished
    rw [apply_finished finished]
    exact Alert.of_aside (by rw [finished]; rfl)
  · cases event with
    | act => exact absurd rfl outside
    | handler call =>
      unfold apply
      rw [if_neg ended]
      rcases quiet_handle (first.run events) routed with exits | loud
      · exact Alert.of_aside (by rw [exits]; rfl)
      · exact Alert.of_loud loud
    | access call => cases routed
    | arrive | busReady | child | elapse =>
      refine alert.elsewhere rfl _ rfl (fun _ => rfl) ?_ ?_ ?_ ?_ ?_ <;>
        simp [apply, ended, arrive, onSession]

/-! ### One action -/

theorem Alert.of_acting (acting : reactor.stage.isActing)
    (known : reactor.isQuiet → reactor.signals.urgent → Noticed first events .urgent) :
    Alert first events reactor := by
  have idle : reactor.stage.isPolling = false ∧ reactor.stage.isBeginning = false := by
    cases stage : reactor.stage with
    | ticking | publishing | executing | realigning => exact ⟨rfl, rfl⟩
    | _ => simp [stage, Stage.isActing] at acting
  refine .of_idle idle.1 (fun empty _ => known empty) (fun _ beginning => ?_)
  simp [idle] at beginning

/-- What was noticed before an action stays so, unless the action ends a poll. -/
theorem Noticed.act {flag : Flag} (noticed : Noticed first events flag)
    (here : first.run events = reactor)
    (still : reactor.stage.isPolling → reactor.step.stage.isPolling) :
    Noticed first (events ++ [.act]) flag :=
  noticed.concat rfl (by rwa [here, apply_act])

/-- The reactor looks whether it is to panic. -/
theorem Alert.top (alert : Alert first events reactor) (here : first.run events = reactor)
    (stage : reactor.stage = .top) : Alert first (events ++ [.act]) reactor.step := by
  by_cases panics : reactor.signals.panic
  · have next : reactor.step = reactor.goto .panicking := by simp [step, stage, panics]
    rw [next]
    exact Alert.of_aside rfl
  · have next : reactor.step = reactor.goto .pollExited := by simp [step, stage, panics]
    have begun (empty : reactor.isQuiet) (up : reactor.signals.urgent)
        (ended : reactor.signals.childExited) : Noticed first (events ++ [.act]) .urgent :=
      (alert.beginning empty (by rw [stage]; rfl) up ended).act here
        (by rw [stage]; exact Bool.false_ne_true.elim)
    rw [next]
    constructor
    case panic => exact fun _ _ => Bool.eq_false_iff.mpr panics
    case beginning => exact fun empty _ => begun empty
    all_goals simp [goto, Stage.isChosen, Stage.isActing]

/-- The reactor looks at the first flag to choose how long it polls. -/
theorem Alert.pollExited (alert : Alert first events reactor) (here : first.run events = reactor)
    (stage : reactor.stage = .pollExited) : Alert first (events ++ [.act]) reactor.step := by
  have calm (empty : reactor.isQuiet) : reactor.signals.panic = false :=
    alert.panic empty (by rw [stage]; rfl)
  by_cases ended : reactor.signals.childExited
  · have next : reactor.step = reactor.goto (.poll true) := by simp [step, stage, ended]
    have exited : Noticed first (events ++ [.act]) .exited :=
      .now here ended (Or.inr ⟨by rw [stage]; rfl, by rw [next]; rfl⟩)
    have urgent (empty : reactor.isQuiet) (up : reactor.signals.urgent) :
        Noticed first (events ++ [.act]) .urgent :=
      (alert.beginning empty (by rw [stage]; rfl) up ended).act here fun _ => by rw [next]; rfl
    rw [next]
    constructor
    case panic => exact fun empty _ => calm empty
    case chosen =>
      intro empty _ flag up
      cases flag with
      | exited => exact exited
      | urgent => exact urgent empty up
    all_goals simp [goto, Stage.isActing, Stage.isBeginning]
  · have next : reactor.step = reactor.goto .pollUrgent := by simp [step, stage, ended]
    rw [next]
    constructor
    case panic => exact fun empty _ => calm empty
    case alive => exact fun _ _ => Bool.eq_false_iff.mpr ended
    all_goals simp [goto, Stage.isChosen, Stage.isActing, Stage.isBeginning]

/-- The reactor looks at the second flag, the first one not being up. -/
theorem Alert.pollUrgent (alert : Alert first events reactor) (here : first.run events = reactor)
    (stage : reactor.stage = .pollUrgent) : Alert first (events ++ [.act]) reactor.step := by
  have next : reactor.step = reactor.goto (.poll reactor.signals.urgent) := by simp [step, stage]
  have alive (empty : reactor.isQuiet) : reactor.signals.childExited = false :=
    alert.alive empty stage
  have urgent (up : reactor.signals.urgent) : Noticed first (events ++ [.act]) .urgent :=
    .now here up (Or.inr ⟨by rw [stage]; rfl, by rw [next]; rfl⟩)
  rw [next]
  constructor
  case panic => exact fun empty _ => alert.panic empty (by rw [stage]; rfl)
  case chosen =>
    intro empty _ flag up
    cases flag with
    | exited => exact absurd up (Bool.eq_false_iff.mp (alive empty))
    | urgent => exact urgent up
  case short =>
    intro empty up long
    rcases up with ended | up
    · exact absurd ended (Bool.eq_false_iff.mp (alive empty))
    · have short : reactor.signals.urgent = false := Stage.poll.inj long
      exact absurd up (Bool.eq_false_iff.mp short)
  all_goals simp [goto, Stage.isActing, Stage.isBeginning]

omit [FileSystem φ] in
/-- A short poll is no longer than such polls are. -/
theorem pollTimeout_le (reactor : Reactor φ) :
    reactor.pollTimeout true ≤ reactor.tunables.shortPoll := by
  unfold pollTimeout Notice.clamp
  simp only [if_true]
  split <;> split <;> omega

/-- The reactor starts to wait. -/
theorem Alert.poll (alert : Alert first events reactor) (here : first.run events = reactor)
    {short : Bool} (stage : reactor.stage = .poll short) :
    Alert first (events ++ [.act]) reactor.step := by
  have next : reactor.step = reactor.goto (.waiting (reactor.now + reactor.pollTimeout short)) := by
    simp [step, stage]
  have kept (empty : reactor.isQuiet) (flag : Flag) (up : flag.isUp reactor.signals) :
      Noticed first (events ++ [.act]) flag :=
    (alert.chosen empty (by rw [stage]; rfl) flag up).act here fun _ => by rw [next]; rfl
  rw [next]
  constructor
  case panic => exact fun empty _ => alert.panic empty (by rw [stage]; rfl)
  case chosen => exact fun empty _ => kept empty
  case soon =>
    intro empty up deadline waits
    have brief := alert.short empty up
    rw [stage] at brief
    cases short with
    | false => exact absurd rfl brief
    | true =>
      cases waits
      exact Nat.add_le_add_left (pollTimeout_le reactor) _
  all_goals simp [goto, Stage.isActing, Stage.isBeginning]

/-- The reactor waits, or is woken. -/
theorem Alert.wait (alert : Alert first events reactor) (here : first.run events = reactor)
    {deadline : Nat} (stage : reactor.stage = .waiting deadline) :
    Alert first (events ++ [.act]) reactor.step := by
  have next : reactor.step = reactor.await deadline := by simp [step, stage]
  rw [next]
  rcases stage_await reactor deadline with waits | ⟨wake, woken⟩
  · have same : reactor.await deadline = reactor := by
      unfold await at waits ⊢
      split at waits
      · rfl
      · rw [stage] at waits
        cases waits
      · rw [stage] at waits
        cases waits
    have nothing : reactor.apply .act = reactor := by rw [apply_act, next, same]
    rw [same]
    exact alert.elsewhere here .act nothing (fun _ => rfl) rfl rfl rfl rfl (Nat.le_refl _)
  · exact Alert.of_aside (by rw [woken]; rfl)

/-- The reactor carries out a command of the tick. -/
theorem Alert.execute (alert : Alert first events reactor) (here : first.run events = reactor)
    {command : Shutdown.Command} {rest : List Shutdown.Command} {keepRunning : Bool}
    (stage : reactor.stage = .executing (command :: rest) keepRunning) :
    Alert first (events ++ [.act]) reactor.step := by
  have next : reactor.step = reactor.execute command rest keepRunning := by simp [step, stage]
  have kept (empty : reactor.isQuiet) (up : reactor.signals.urgent) :
      Noticed first (events ++ [.act]) .urgent :=
    (alert.acting empty (by rw [stage]; rfl) up).act here
      (by rw [stage]; exact Bool.false_ne_true.elim)
  rw [next]
  cases command with
  | sendDone status => exact Alert.of_acting rfl kept
  | detachSession => exact Alert.of_acting rfl kept
  | scrubTempFiles =>
    refine Alert.of_acting rfl ?_
    show (reactor.scrub.goto _).isQuiet → (reactor.scrub.goto _).signals.urgent → _
    rw [scrub_eq]
    exact kept
  | clearUrgent => exact Alert.of_acting rfl fun _ up => by cases up
  | panic => exact Alert.of_aside rfl
  | finalLinger => exact Alert.of_acting rfl kept

/-- **What an action of the reactor keeps.** -/
theorem Alert.act (alert : Alert first events reactor) (here : first.run events = reactor) :
    Alert first (events ++ [.act]) reactor.step := by
  have kept (acting : reactor.stage.isActing) (idle : reactor.stage.isPolling = false)
      (empty : reactor.isQuiet) (up : reactor.signals.urgent) :
      Noticed first (events ++ [.act]) .urgent :=
    (alert.acting empty acting up).act here (by simp [idle])
  cases stage : reactor.stage with
  | top => exact alert.top here stage
  | pollExited => exact alert.pollExited here stage
  | pollUrgent => exact alert.pollUrgent here stage
  | poll short => exact alert.poll here stage
  | waiting deadline => exact alert.wait here stage
  | seeUrgent exited =>
    have urgent (up : reactor.signals.urgent) : Noticed first (events ++ [.act]) .urgent :=
      .now here up (Or.inl (by rw [stage]; rfl))
    simp only [step, stage]
    exact Alert.of_acting rfl fun _ => urgent
  | ticking exited urgent =>
    rw [stage] at kept
    simp only [step, stage]
    exact Alert.of_acting rfl (kept rfl rfl)
  | publishing answer =>
    rw [stage] at kept
    simp only [step, stage]
    exact Alert.of_acting rfl (kept rfl rfl)
  | executing commands keepRunning =>
    cases commands with
    | cons command rest => exact alert.execute here stage
    | nil =>
      rw [stage] at kept
      cases keepRunning with
      | true =>
        simp only [step, stage]
        exact .of_idle rfl (fun _ => Bool.false_ne_true.elim) fun empty _ up _ =>
          kept rfl rfl empty up
      | false =>
        simp only [step, stage]
        exact Alert.of_aside rfl
  | realigning rest keepRunning =>
    rw [stage] at kept
    simp only [step, stage]
    exact Alert.of_acting rfl (kept rfl rfl)
  | serving wake => exact Alert.of_aside (by simp only [step, stage]; rfl)
  | opening => exact Alert.of_aside (by simp only [step, stage]; split <;> rfl)
  | receiving learnt =>
    refine Alert.of_aside ?_
    simp only [step, stage]
    obtain ⟨more, next | next⟩ := stage_receiveNext reactor learnt <;> rw [next] <;> rfl
  | learning learnt =>
    cases learnt with
    | nil => exact Alert.of_aside (by simp only [step, stage]; rfl)
    | cons event rest => exact Alert.of_aside (by simp only [step, stage]; rfl)
  | recheck => exact Alert.of_aside (by simp only [step, stage]; split <;> rfl)
  | noticing => exact Alert.of_aside (by simp only [step, stage]; rfl)
  | noticed => exact Alert.of_aside (by simp only [step, stage]; rfl)
  | seeExited => exact Alert.of_aside (by simp only [step, stage]; rfl)
  | leaving => exact Alert.of_aside (by simp only [step, stage]; rfl)
  | left => exact Alert.of_aside (by simp only [step, stage]; rfl)
  | panicking =>
    exact Alert.of_aside (by simp only [step, stage]; unfold Reactor.panic; split <;> rfl)
  | panicDetaching => exact Alert.of_aside (by simp only [step, stage]; rfl)
  | panicked => exact Alert.of_aside (by simp only [step, stage]; rfl)
  | finished exit => exact Alert.of_aside (by rw [step_finished stage, stage]; rfl)

end

/-! ### The statement -/

/-- **The reactor stays alert along every run**, if at the start no more than one flag is up of
which no handler has told it. -/
theorem alert_run {setup : Setup φ}
    (announced : setup.signals.childExited → setup.signals.urgent →
      (start setup).isQuiet = false)
    {events : List Event} (routed : ∀ event ∈ events, event.isRouted) :
    Alert (start setup) events ((start setup).run events) := by
  revert routed
  refine run_induction (start setup) (motive := fun events reactor =>
    (∀ event ∈ events, event.isRouted) → Alert (start setup) events reactor)
    (fun _ => ?_) ?_ events
  · refine .of_idle rfl (fun _ => Bool.false_ne_true.elim) fun empty _ up ended => ?_
    rw [announced ended up] at empty
    cases empty
  · intro events event ih routed
    have alert := ih fun event earlier => routed event (List.mem_append_left _ earlier)
    by_cases acts : event = .act
    · rw [acts, apply_act]
      exact alert.act rfl
    · exact alert.outside acts (routed event (by simp))

omit [FileSystem φ] in
/-- A supervisor starts its reactor with one flag up at most: a launch raises no other. -/
theorem announced_setup (program : Argument) (request : Request) (tunables : Tunables)
    (launch : Launch) (session : Option (Session Bus.Scripted)) (files : φ)
    (ended : (Supervisor.setup program request tunables launch session files).signals.childExited)
    (up : (Supervisor.setup program request tunables launch session files).signals.urgent) :
    (start (Supervisor.setup program request tunables launch session files)).isQuiet = false := by
  simp only [Supervisor.setup] at ended up
  cases outcome : launch.outcome <;> simp [outcome, Supervisor.flags] at ended up

/-- **No wake-up is lost.** While the reactor waits, a byte in the pipe wakes it at once. If there
is none, nobody has asked for a panic, each flag that is up was noticed after it was raised, and
with a flag up no more than a short poll is left. -/
theorem wakeup_not_lost {setup : Setup φ}
    (announced : setup.signals.childExited → setup.signals.urgent →
      (start setup).isQuiet = false)
    {events : List Event} (routed : ∀ event ∈ events, event.isRouted) {deadline : Nat}
    (waits : ((start setup).run events).stage = .waiting deadline) {pipe : WakePipe}
    (held : ((start setup).run events).wake = some pipe) :
    (pipe.bytes ≠ 0 → ((start setup).run events).step.stage = .serving .signal) ∧
      (pipe.bytes = 0 →
        ((start setup).run events).signals.panic = false ∧
          (∀ flag : Flag, flag.isUp ((start setup).run events).signals →
            Noticed (start setup) events flag) ∧
          ((∃ flag : Flag, flag.isUp ((start setup).run events).signals) →
            deadline ≤ ((start setup).run events).now +
              ((start setup).run events).tunables.shortPoll)) := by
  have alert := alert_run announced routed
  generalize (start setup).run events = reactor at alert waits held ⊢
  constructor
  · intro filled
    have wakes : reactor.wakeUp? deadline = some .signal := by
      simp [wakeUp?, held, WakePipe.readable, Nat.pos_of_ne_zero filled]
    simp [step, waits, await, wakes, goto]
  · intro empty
    have quiet : reactor.isQuiet := by simp [isQuiet, held, empty]
    refine ⟨alert.panic quiet (by rw [waits]; rfl), alert.chosen quiet (by rw [waits]; rfl), ?_⟩
    rintro ⟨flag, up⟩
    refine alert.soon quiet ?_ deadline waits
    cases flag with
    | exited => exact Or.inl up
    | urgent => exact Or.inr up

/-! ### A signal that comes during a long poll -/

/-- What the supervisor gives its reactor for a command that runs, with nobody to be told. -/
def unattendedSetup : Setup Tree :=
  Supervisor.setup [] {} ({} : Settings).tunables ⟨.spawned 7, false⟩ none .empty

/-- The events of a run that is asked to end during its first poll, up to its second one. -/
def interruptedRun : List Event :=
  List.replicate 4 .act ++ .handler .urgent :: List.replicate 16 .act

/-- The first poll has ended, and the second one is short. -/
theorem interrupted_noticed :
    ((start unattendedSetup).run interruptedRun).stage = .waiting 20 ∧
      ((start unattendedSetup).run interruptedRun).wake = some ⟨0, false⟩ ∧
      ((start unattendedSetup).run interruptedRun).signals.urgent ∧
      Noticed (start unattendedSetup) interruptedRun .urgent ∧
      20 ≤ ((start unattendedSetup).run interruptedRun).now +
        ((start unattendedSetup).run interruptedRun).tunables.shortPoll := by
  have waits : ((start unattendedSetup).run interruptedRun).stage = .waiting 20 := by
    decide +kernel
  have held : ((start unattendedSetup).run interruptedRun).wake = some ⟨0, false⟩ := by
    decide +kernel
  have up : ((start unattendedSetup).run interruptedRun).signals.urgent := by decide +kernel
  have routed : ∀ event ∈ interruptedRun, event.isRouted := by decide +kernel
  obtain ⟨-, noticed, soon⟩ :=
    (wakeup_not_lost (announced_setup [] {} _ _ none _) routed waits held).2 rfl
  exact ⟨waits, held, up, noticed .urgent up, soon ⟨.urgent, up⟩⟩

end Reactor

end LaunchSupervisor
