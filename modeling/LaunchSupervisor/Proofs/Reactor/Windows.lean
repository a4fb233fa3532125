import LaunchSupervisor.Proofs.Reactor.Alignment
import LaunchSupervisor.Proofs.Reactor.LastPass
import LaunchSupervisor.Proofs.Shutdown.Grace
import LaunchSupervisor.Proofs.Shutdown.ReplyWait

/-!
**What the grace periods are counted in.** A caller has so many polls' time to answer, and a command
so many to heed an urgent signal. The shutdown counts ticks, and every iteration feeds it one,
whatever has ended its wait. So the number of iterations that a grace period lasts is exact, and its
length is not: an iteration that error output, the bus or a signal has ended counts like a poll that
has expired.

A `Journal` is kept along a life: of each iteration, how its wait ended and what its tick saw.

* `Lap`, `Journal`, `journal`: what is written down.
* `Keeps.undergo`: the shutdown is what the journal says, one occurrence more.
* `windows_exact`: the statement.
* `windows_without_polls`: grace periods that are over before any poll has expired.
-/

namespace LaunchSupervisor.Reactor

/-! ### What is written down -/

/-- How a wait ended. -/
structure Ending where
  /-- What woke the reactor, unless a source has failed. -/
  wake : Option Wake
  /-- Whether an urgent signal was pending. -/
  pending : Bool
deriving DecidableEq

/-- An iteration: how its wait ended, and what its tick saw. -/
structure Lap where
  ending : Ending
  seen : Shutdown.Observation
deriving DecidableEq

namespace Lap

/-- Whether the poll has expired. -/
def expired (lap : Lap) : Bool :=
  lap.ending.wake == some .timeout

/-- Whether the tick found an urgent signal pending and the command alive. -/
def ignored (lap : Lap) : Bool :=
  (Shutdown.Event.tick lap.seen).showsIgnored

/-- Whether the poll has expired with an urgent signal pending. -/
def graced (lap : Lap) : Bool :=
  lap.expired && lap.ending.pending

end Lap

/-- What the shutdown is fed. -/
inductive Record where
  | lap (lap : Lap)
  | doneReplied
  | doneFailed
deriving DecidableEq

namespace Record

/-- What is fed, as an event of the shutdown. -/
def event : Record → Shutdown.Event
  | .lap one => .tick one.seen
  | .doneReplied => .doneReplied
  | .doneFailed => .doneFailed

/-- The iteration whose tick is fed. -/
def lap? : Record → Option Lap
  | .lap one => some one
  | .doneReplied => none
  | .doneFailed => none

/-- What is fed of something learnt. -/
def ofLearnt? : SessionEvent → Option Record
  | .doneReplied => some .doneReplied
  | .doneFailed => some .doneFailed
  | .detached => none

end Record

/-- The iterations among what the shutdown is fed. -/
def laps (records : List Record) : List Lap :=
  records.filterMap Record.lap?

/-- The events of the shutdown among them. -/
def eventsOf (records : List Record) : List Shutdown.Event :=
  records.map Record.event

/-- What is known of a life so far. -/
structure Journal where
  /-- How the wait of the iteration under way has ended. -/
  ending : Option Ending := none
  records : List Record := []
deriving DecidableEq

variable {φ : Type}

/-- **The journal with one occurrence more**: a wait ends, the shutdown is told what was learnt, or
it is fed a tick. -/
def Journal.note (journal : Journal) (reactor : Reactor φ) : Occurrence → Journal
  | .event .act =>
    match reactor.stage with
    | .waiting deadline =>
      match reactor.wakeUp? deadline with
      | none => journal
      | some wake => { journal with ending := some ⟨some wake, reactor.signals.urgent⟩ }
    | .learning (event :: _) =>
      { journal with records := journal.records ++ (Record.ofLearnt? event).toList }
    | .ticking exited urgent =>
      match journal.ending with
      | none => journal
      | some ending =>
        { records :=
          journal.records ++ [.lap ⟨ending, ⟨exited, urgent, reactor.attached⟩⟩] }
    | _ => journal
  | .event _ => journal
  | .outage source =>
    match reactor.stage with
    | .waiting _ =>
      if reactor.awaits source then
        { journal with ending := some ⟨none, reactor.signals.urgent⟩ }
      else journal
    | _ => journal

/-- The journal of a life that is gone on with. -/
def journalFrom [FileSystem φ] (reactor : Reactor φ) (journal : Journal) :
    List Occurrence → Journal
  | [] => journal
  | occurrence :: rest =>
    journalFrom (reactor.undergo occurrence) (journal.note reactor occurrence) rest

/-- The journal of a life. -/
def journal [FileSystem φ] (first : Reactor φ) (occurrences : List Occurrence) : Journal :=
  journalFrom first {} occurrences

/-- What the shutdown was fed in a life. -/
def fed [FileSystem φ] (first : Reactor φ) (occurrences : List Occurrence) : List Record :=
  (journal first occurrences).records

theorem lap?_ofLearnt? (event : SessionEvent) :
    laps (Record.ofLearnt? event).toList = [] := by
  cases event <;> rfl

theorem laps_append (records more : List Record) :
    laps (records ++ more) = laps records ++ laps more :=
  List.filterMap_append

theorem eventsOf_append (records more : List Record) :
    eventsOf (records ++ more) = eventsOf records ++ eventsOf more :=
  List.map_append

/-- What only ticks do is counted over the iterations. -/
theorem countP_eventsOf {sees : Shutdown.Event → Bool} (replied : sees .doneReplied = false)
    (failed : sees .doneFailed = false) (records : List Record) :
    (eventsOf records).countP sees = (laps records).countP fun lap => sees (.tick lap.seen) := by
  unfold eventsOf laps
  induction records with
  | nil => rfl
  | cons record records ih =>
    rw [List.map_cons, List.countP_cons, ih]
    cases record with
    | lap lap =>
      rw [List.filterMap_cons_some (show Record.lap? (.lap lap) = some lap from rfl),
        List.countP_cons]
      rfl
    | doneReplied =>
      rw [List.filterMap_cons_none (show Record.lap? .doneReplied = none from rfl)]
      simp [Record.event, replied]
    | doneFailed =>
      rw [List.filterMap_cons_none (show Record.lap? .doneFailed = none from rfl)]
      simp [Record.event, failed]

/-! ### The iteration under way -/

/-- Whether a stage is behind the wait of an iteration, up to its tick. -/
def Stage.isAwake : Stage → Bool
  | .serving _ => true
  | .opening => true
  | .receiving _ => true
  | .learning _ => true
  | .recheck => true
  | .noticing => true
  | .noticed => true
  | .seeExited => true
  | .seeUrgent _ => true
  | .ticking _ _ => true
  | _ => false

/-- Whether a tick was just fed. -/
def Stage.isFed : Stage → Bool
  | .publishing _ => true
  | _ => false

section

variable [FileSystem φ]

/-- **An action that ends no wait and feeds no tick** stays on its side of both. -/
theorem awake_step {reactor : Reactor φ}
    (waits : ∀ deadline, reactor.stage ≠ .waiting deadline)
    (ticks : ∀ exited urgent, reactor.stage ≠ .ticking exited urgent) :
    (reactor.step.stage.isAwake → reactor.stage.isAwake) ∧
      reactor.step.stage.isFed = false := by
  cases stage : reactor.stage with
  | waiting deadline => exact absurd stage (waits deadline)
  | ticking exited urgent => exact absurd stage (ticks exited urgent)
  | receiving learnt =>
    simp only [step, stage]
    obtain ⟨more, next | next⟩ := stage_receiveNext reactor learnt <;> rw [next] <;>
      exact ⟨fun _ => rfl, rfl⟩
  | learning learnt => cases learnt <;> simp only [step, stage] <;> exact ⟨fun _ => rfl, rfl⟩
  | executing commands keepRunning =>
    cases commands with
    | nil =>
      cases keepRunning <;> simp only [step, stage] <;> exact ⟨Bool.false_ne_true.elim, rfl⟩
    | cons command rest =>
      simp only [step, stage]
      cases command <;> exact ⟨Bool.false_ne_true.elim, rfl⟩
  | panicking =>
    simp only [step, stage, panic]
    split <;> exact ⟨Bool.false_ne_true.elim, rfl⟩
  | top | pollExited | recheck | opening =>
    simp only [step, stage]
    split <;> simp [goto, Stage.isAwake, Stage.isFed]
  | finished exit =>
    rw [step_finished stage, stage]
    exact ⟨Bool.false_ne_true.elim, rfl⟩
  | _ =>
    simp only [step, stage]
    first
      | exact ⟨fun _ => rfl, rfl⟩
      | exact ⟨Bool.false_ne_true.elim, rfl⟩

/-- An action that tells the shutdown nothing and feeds no tick leaves it as it is. -/
theorem core_step {reactor : Reactor φ}
    (learns : ∀ event rest, reactor.stage ≠ .learning (event :: rest))
    (ticks : ∀ exited urgent, reactor.stage ≠ .ticking exited urgent) :
    reactor.step.core = reactor.core := by
  have turn := turn_step reactor
  generalize reactor.step = next at turn
  cases turn with
  | calm calm => exact calm.core
  | receive stage => exact (kept_receiveNext reactor _).core
  | learn stage => exact absurd stage (learns _ _)
  | tick stage => exact absurd stage (ticks _ _)
  | scrub stage | abandon stage =>
    rw [scrub_eq]
    rfl

end

/-! ### The shutdown is what the journal says -/

/-- **What a journal tells of a reactor.** -/
structure Keeps (first : Shutdown.Core) (journal : Journal) (reactor : Reactor φ) : Prop where
  core : reactor.core = first.after (eventsOf journal.records)
  /-- Behind a wait it is known how it ended. -/
  awake : reactor.stage.isAwake → journal.ending.isSome
  saw : reactor.stage.saw = some true → reactor.signals.childExited
  /-- A command that was seen to be over stays so. -/
  known : ∀ lap ∈ laps journal.records, lap.seen.childExited →
    reactor.signals.childExited ∧ reactor.stage.saw ≠ some false
  steady : (laps journal.records).Pairwise
    fun early late => early.seen.childExited → late.seen.childExited
  /-- No signal was ignored for too long while the loop goes on. -/
  within : reactor.stage.leg ≠ 0 → reactor.core.urgentTicks ≤ reactor.core.urgentLimit
  /-- The tick that was just fed is the last thing written down. -/
  fed : ∀ answer, reactor.stage = .publishing answer → ∃ records lap,
    journal.records = records ++ [.lap lap] ∧
      answer = ((first.after (eventsOf records)).tick lap.seen).2 ∧
      (first.after (eventsOf records)).urgentTicks ≤ (first.after (eventsOf records)).urgentLimit

namespace Keeps

variable {first : Shutdown.Core} {journal next : Journal} {reactor after : Reactor φ}

/-- A change that is no tick, with no iteration written down. -/
theorem onward (keeps : Keeps first journal reactor) (onward : Onward reactor after)
    (core : after.core = first.after (eventsOf next.records))
    (counts : after.core.urgentTicks = reactor.core.urgentTicks ∧
      after.core.urgentLimit = reactor.core.urgentLimit)
    (same : laps next.records = laps journal.records)
    (awake : after.stage.isAwake → next.ending.isSome)
    (quiet : ∀ answer, after.stage = .publishing answer →
      reactor.stage = .publishing answer ∧ next.records = journal.records) :
    Keeps first next after where
  core := core
  awake := awake
  saw sawEnd := by
    rcases onward.saw true sawEnd with now | before
    · exact onward.exited now.symm
    · exact onward.exited (keeps.saw before)
  known := by
    rw [same]
    intro lap member sawEnd
    obtain ⟨exited, looked⟩ := keeps.known lap member sawEnd
    refine ⟨onward.exited exited, fun overlooked => ?_⟩
    rcases onward.saw false overlooked with now | before
    · rw [exited] at now
      cases now
    · exact looked before
  steady := same ▸ keeps.steady
  within goesOn := by
    rw [counts.1, counts.2]
    exact keeps.within fun stopped => goesOn (Nat.le_zero.mp (stopped ▸ onward.leg))
  fed answer published := by
    obtain ⟨before, records⟩ := quiet answer published
    rw [records]
    exact keeps.fed answer before

/-- A change that is no tick, with nothing fed to the shutdown. -/
theorem calm (keeps : Keeps first journal reactor) (onward : Onward reactor after)
    (core : after.core = reactor.core) (same : next.records = journal.records)
    (awake : after.stage.isAwake → next.ending.isSome)
    (quiet : ∀ answer, after.stage = .publishing answer → reactor.stage = .publishing answer) :
    Keeps first next after :=
  keeps.onward onward (by rw [core, same, keeps.core]) (by rw [core]; exact ⟨rfl, rfl⟩)
    (by rw [same]) awake fun answer published => ⟨quiet answer published, same⟩

/-- A tick is fed. -/
theorem tick (keeps : Keeps first journal reactor) {exited urgent : Bool} {ending : Ending}
    (stage : reactor.stage = .ticking exited urgent) :
    Keeps first
      { records := journal.records ++ [.lap ⟨ending, ⟨exited, urgent, reactor.attached⟩⟩] }
      (reactor.tick exited urgent) := by
  have looked : reactor.stage.saw = some exited := by rw [stage]; rfl
  have within : reactor.core.urgentTicks ≤ reactor.core.urgentLimit :=
    keeps.within (by rw [stage]; exact Nat.one_ne_zero)
  have before := keeps.core
  constructor
  case core =>
    show (reactor.core.tick _).1 = _
    rw [eventsOf_append, before]
    exact (Shutdown.Core.after_concat first (eventsOf journal.records) (.tick _)).symm
  case awake => exact Bool.false_ne_true.elim
  case saw => exact fun told => by cases told
  case known =>
    intro lap member sawEnd
    refine ⟨?_, fun told => by cases told⟩
    rw [laps_append] at member
    rcases List.mem_append.mp member with earlier | now
    · exact (keeps.known lap earlier sawEnd).1
    · obtain rfl := List.mem_singleton.mp now
      exact keeps.saw (looked.trans (congrArg some sawEnd))
  case steady =>
    rw [laps_append, List.pairwise_append]
    refine ⟨keeps.steady, List.pairwise_singleton _ _, fun early earlier late now sawEnd => ?_⟩
    obtain rfl := List.mem_singleton.mp now
    -- What this tick was told was looked up after the command had been seen to be over.
    have notAlive := (keeps.known early earlier sawEnd).2
    rw [looked] at notAlive
    cases exited with
    | true => rfl
    | false => exact absurd rfl notAlive
  case within =>
    intro goesOn
    have answered :
        (reactor.core.step (.tick ⟨exited, urgent, reactor.attached⟩)).2.keepRunning := by
      by_contra stops
      exact goesOn (if_neg stops)
    exact Shutdown.Core.urgentTicks_within_step within answered
  case fed =>
    intro answer published
    refine ⟨journal.records, _, rfl, ?_, ?_⟩
    · rw [← before]
      exact (Stage.publishing.inj published).symm
    · rwa [← before]

variable [FileSystem φ]

/-- The shutdown is told what was learnt. -/
theorem learn (keeps : Keeps first journal reactor) {event : SessionEvent}
    {rest : List SessionEvent} (stage : reactor.stage = .learning (event :: rest)) :
    Keeps first { journal with records := journal.records ++ (Record.ofLearnt? event).toList }
      reactor.step := by
  have onward : Onward reactor reactor.step := onward_step (by simp [stage])
  have known : journal.ending.isSome := keeps.awake (by rw [stage]; rfl)
  have core := keeps.core
  simp only [step, stage] at onward ⊢
  refine keeps.onward onward ?_ ?_ ?_ (fun _ => known) fun _ published => by cases published
  · show (reactor.learn event).core = _
    cases event with
    | doneReplied | doneFailed =>
      rw [eventsOf_append]
      exact (congrArg (fun core : Shutdown.Core => (core.step _).1) core).trans
        (Shutdown.Core.after_concat _ _ _).symm
    | detached =>
      rw [eventsOf_append]
      exact core.trans (congrArg first.after (List.append_nil _).symm)
  · cases event <;> exact ⟨rfl, rfl⟩
  · rw [laps_append, lap?_ofLearnt?, List.append_nil]

/-- The wait is gone on with, or it ends. -/
theorem wait (keeps : Keeps first journal reactor) {deadline : Nat}
    (stage : reactor.stage = .waiting deadline) :
    Keeps first (journal.note reactor (.event .act)) reactor.step := by
  have onward : Onward reactor reactor.step := onward_step (by simp [stage])
  have core : reactor.step.core = reactor.core :=
    core_step (by simp [stage]) (by simp [stage])
  have moved : reactor.step = reactor.await deadline := by simp only [step, stage]
  have noted : (journal.note reactor (.event .act)).records = journal.records := by
    simp only [Journal.note, stage]
    split <;> rfl
  refine keeps.calm onward core noted ?_ fun answer published => ?_
  · rw [moved]
    simp only [Journal.note, stage, await]
    cases reactor.wakeUp? deadline with
    | none =>
      simp only [stage]
      exact Bool.false_ne_true.elim
    | some wake => exact fun _ => rfl
  · rw [moved] at published
    rcases stage_await reactor deadline with same | ⟨wake, woken⟩
    · rwa [same] at published
    · rw [woken] at published
      cases published

/-- The reactor goes on, with nothing to write down. -/
theorem idle (keeps : Keeps first journal reactor)
    (waits : ∀ deadline, reactor.stage ≠ .waiting deadline)
    (learns : ∀ event rest, reactor.stage ≠ .learning (event :: rest))
    (ticks : ∀ exited urgent, reactor.stage ≠ .ticking exited urgent) :
    Keeps first (journal.note reactor (.event .act)) reactor.step := by
  have noted : journal.note reactor (.event .act) = journal := by
    simp only [Journal.note]
  obtain ⟨awake, fed⟩ := awake_step waits ticks
  rw [noted]
  refine keeps.calm (onward_step ticks) (core_step learns ticks) rfl
    (fun now => keeps.awake (awake now)) fun answer published => ?_
  rw [published] at fed
  cases fed

/-- **The reactor acts.** -/
theorem act (keeps : Keeps first journal reactor) :
    Keeps first (journal.note reactor (.event .act)) reactor.step := by
  cases stage : reactor.stage with
  | waiting deadline => exact keeps.wait stage
  | learning learnt =>
    cases learnt with
    | nil => exact keeps.idle (by simp [stage]) (by simp [stage]) (by simp [stage])
    | cons event rest =>
      have told := keeps.learn stage
      simpa only [Journal.note, stage] using told
  | ticking exited urgent =>
    obtain ⟨ending, known⟩ := Option.isSome_iff_exists.mp (keeps.awake (by rw [stage]; rfl))
    simp only [step, Journal.note, stage, known]
    exact keeps.tick stage
  | _ => exact keeps.idle (by simp [stage]) (by simp [stage]) (by simp [stage])

/-- Something happens outside the reactor. -/
theorem outside (keeps : Keeps first journal reactor) {event : Event} (outside : event ≠ .act) :
    Keeps first journal (reactor.apply event) := by
  obtain ⟨onward, core⟩ := onward_outside reactor outside
  rcases stage_outside reactor outside with same | ended
  · exact keeps.calm onward core rfl (fun awake => keeps.awake (same ▸ awake))
      fun answer published => same ▸ published
  · refine keeps.calm onward core rfl ?_ fun answer published => ?_
    · rw [ended]
      exact Bool.false_ne_true.elim
    · rw [ended] at published
      cases published

omit [FileSystem φ] in
/-- The wait for a source fails. -/
theorem fail (keeps : Keeps first journal reactor) (source : Source) :
    Keeps first (journal.note reactor (.outage source)) (reactor.fail source) := by
  cases stage : reactor.stage with
  | waiting deadline =>
    simp only [Reactor.fail, Journal.note, stage]
    split
    · obtain ⟨signals, core⟩ := signals_core_lose reactor source
      exact keeps.calm (.to signals stage (Nat.le_succ 1) rfl) core rfl (fun _ => rfl)
        fun _ published => by cases published
    · exact keeps
  | _ => simpa only [Reactor.fail, Journal.note, stage] using keeps

/-- **One occurrence more.** -/
theorem undergo (keeps : Keeps first journal reactor) (occurrence : Occurrence) :
    Keeps first (journal.note reactor occurrence) (reactor.undergo occurrence) := by
  cases occurrence with
  | event event =>
    show Keeps first _ (reactor.apply event)
    by_cases acts : event = .act
    · subst acts
      rw [apply_act]
      exact keeps.act
    · have noted : journal.note reactor (.event event) = journal := by
        cases event <;> first | rfl | exact absurd rfl acts
      rw [noted]
      exact keeps.outside acts
  | outage source => exact keeps.fail source

end Keeps

/-! ### A life -/

section

variable [FileSystem φ]

theorem journalFrom_concat (reactor : Reactor φ) (journal : Journal)
    (occurrences : List Occurrence) (occurrence : Occurrence) :
    journalFrom reactor journal (occurrences ++ [occurrence]) =
      (journalFrom reactor journal occurrences).note (reactor.live occurrences) occurrence := by
  induction occurrences generalizing reactor journal with
  | nil => rfl
  | cons earlier rest ih => exact ih (reactor.undergo earlier) (journal.note reactor earlier)

/-- **The journal of a life tells of the reactor.** -/
theorem keeps_live (setup : Setup φ) (occurrences : List Occurrence) :
    Keeps (.start setup.tunables.urgentTicks setup.tunables.replyTicks)
      (journal (start setup) occurrences) ((start setup).live occurrences) := by
  induction occurrences using List.reverseRecOn with
  | nil =>
    show Keeps _ {} (start setup)
    exact
      { core := rfl
        awake := Bool.false_ne_true.elim
        saw := fun told => by cases told
        known := fun _ member => by cases member
        steady := .nil
        within := fun _ => UInt32.zero_le
        fed := fun _ published => by cases published }
  | append_singleton occurrences occurrence ih =>
    rw [live_concat, journal, journalFrom_concat]
    exact ih.undergo occurrence

end

/-! ### What ends the grace periods -/

/-- The iterations since the one that orders the report to the caller. -/
def SinceReport (first : Shutdown.Core) (records : List Record) (since : List Lap) : Prop :=
  ∃ before sent behind, records = before ++ .lap sent :: behind ∧
    .sendDone .done ∈ ((first.after (eventsOf before)).tick sent.seen).2.commands ∧
    laps behind = since

/-- A report that was ordered is in the journal, and each iteration since saw the command over. -/
theorem Keeps.sinceReport {first : Shutdown.Core} {journal : Journal} {reactor : Reactor φ}
    {count : Nat} (keeps : Keeps first journal reactor)
    (reported : Shutdown.Core.Reported first (eventsOf journal.records) count) :
    ∃ since, SinceReport first journal.records since ∧ since.length = count := by
  obtain ⟨before, seen, since, fed, ordered, counted⟩ := reported
  obtain ⟨early, late, records, rfl, split⟩ := List.map_eq_append_iff.mp fed
  obtain ⟨record, behind, rfl, tick, rfl⟩ := List.map_eq_cons_iff.mp split
  obtain ⟨sent, rfl, rfl⟩ : ∃ sent, record = .lap sent ∧ sent.seen = seen := by
    cases record with
    | lap sent => exact ⟨sent, rfl, Shutdown.Event.tick.inj tick⟩
    | doneReplied | doneFailed => cases tick
  refine ⟨laps behind, ⟨early, sent, behind, records, ordered, rfl⟩, ?_⟩
  have steady := keeps.steady
  rw [records, laps_append, List.pairwise_append] at steady
  have ended : ∀ lap ∈ laps behind, lap.seen.childExited := fun lap member =>
    (List.pairwise_cons.mp steady.2.1).1 lap member (Shutdown.Core.sendDone_mem_tick ordered).1
  rw [← counted]
  exact ((countP_eventsOf rfl rfl behind).trans (List.countP_eq_length.mpr ended)).symm

/-- With the last tick finding the signal ignored, no tick was fed that found it heeded. -/
theorem Keeps.timesIgnored {first : Shutdown.Core} {journal : Journal} {reactor : Reactor φ}
    (keeps : Keeps first journal reactor) {records : List Record} {lap : Lap}
    (fed : journal.records = records ++ [.lap lap]) (ignored : lap.ignored) :
    Shutdown.timesIgnored (eventsOf records) = (laps records).countP Lap.ignored := by
  have steady := keeps.steady
  rw [fed, laps_append, List.pairwise_append] at steady
  have alive : ∀ early ∈ laps records, ¬ early.seen.childExited := fun early member ended => by
    have late := steady.2.2 early member lap (List.mem_singleton_self lap) ended
    simp [Lap.ignored, Shutdown.Event.showsIgnored, Shutdown.Event.seesEnd, late] at ignored
  have unheeded : ∀ event ∈ eventsOf records, !event.showsHeeded := by
    intro event member
    obtain ⟨record, recorded, rfl⟩ := List.mem_map.mp member
    cases record with
    | lap early =>
      have member : early ∈ laps records := List.mem_filterMap.mpr ⟨.lap early, recorded, rfl⟩
      have alive := alive early member
      simp [Record.event, Shutdown.Event.showsHeeded, Shutdown.Event.seesEnd, alive]
    | doneReplied | doneFailed => rfl
  -- So the count was never taken up again, and goes back to the start.
  unfold Shutdown.timesIgnored
  rw [List.rtakeWhile_eq_self_iff.mpr unheeded]
  exact countP_eventsOf rfl rfl records

/-- **A session is given up when there were as many iterations as the limit says** since the report
was ordered. -/
theorem Keeps.detach {urgentLimit replyLimit : UInt32} {journal : Journal} {reactor : Reactor φ}
    {answer : Shutdown.Step} (keeps : Keeps (.start urgentLimit replyLimit) journal reactor)
    (published : reactor.stage = .publishing answer)
    (ordered : .detachSession ∈ answer.commands) :
    ∃ since, SinceReport (.start urgentLimit replyLimit) journal.records since ∧
      since.length = replyLimit.toNat := by
  obtain ⟨records, lap, fed, rfl, -⟩ := keeps.fed answer published
  refine keeps.sinceReport ?_
  rw [fed, eventsOf_append]
  exact @Shutdown.Core.detach_ordered urgentLimit replyLimit _ (.tick lap.seen) ordered

/-- **A panic is ordered when a signal was found ignored in one iteration more than the limit
says.** -/
theorem Keeps.panic {urgentLimit replyLimit : UInt32} {journal : Journal} {reactor : Reactor φ}
    {answer : Shutdown.Step} (keeps : Keeps (.start urgentLimit replyLimit) journal reactor)
    (published : reactor.stage = .publishing answer) (ordered : .panic ∈ answer.commands) :
    ((laps journal.records).filter Lap.ignored).length = urgentLimit.toNat + 1 := by
  obtain ⟨records, lap, fed, rfl, within⟩ := keeps.fed answer published
  obtain ⟨counted, limit⟩ :=
    Shutdown.Core.urgentTicks_after urgentLimit replyLimit (eventsOf records)
  obtain ⟨ignored, above⟩ :=
    (Shutdown.Core.panic_mem_step_iff _ (.tick lap.seen)).mp ordered
  have last : (laps [.lap lap]).filter Lap.ignored = [lap] := List.filter_cons_of_pos ignored
  rw [limit, UInt32.le_iff_toNat_le, counted] at within
  rw [limit, UInt32.lt_iff_toNat_lt, Shutdown.countUp_toNat, counted] at above
  rw [fed, laps_append, List.filter_append, List.length_append, last, List.length_singleton,
    ← List.countP_eq_length_filter, ← keeps.timesIgnored fed ignored]
  -- The count was not above the limit before this tick, and is now.
  omega

/-! ### The statement -/

/-- Among one more than so many there are so many that do if one at most does not. -/
theorem le_countP_iff {α : Type} {p : α → Bool} {list : List α} {count : Nat}
    (length : list.length = count + 1) : count ≤ list.countP p ↔ list.countP (!p ·) ≤ 1 := by
  have all := List.length_eq_countP_add_countP p (l := list)
  simp only [Bool.not_eq_true, Bool.decide_eq_false] at all
  omega

variable [FileSystem φ]

/-- **Grace periods are so many iterations long, however these come about.** When the session is
given up, exactly as many iterations as the limit says have followed the one that ordered the
report; as many polls have expired since if and only if it was a poll that ended each of them. When
a signal was ignored for too long, it was found so in exactly one iteration more than the limit
says; as many polls have expired on it if and only if no more than one of these was woken otherwise,
or before the signal came. -/
theorem windows_exact {setup : Setup φ} {occurrences : List Occurrence} {answer : Shutdown.Step}
    (published : ((start setup).live occurrences).stage = .publishing answer) :
    (.detachSession ∈ answer.commands →
        ∃ since, SinceReport (start setup).core (fed (start setup) occurrences) since ∧
          since.length = setup.tunables.replyTicks.toNat ∧
          (setup.tunables.replyTicks.toNat ≤ since.countP Lap.expired ↔
            ∀ lap ∈ since, lap.expired)) ∧
      (.panic ∈ answer.commands →
        ((laps (fed (start setup) occurrences)).filter Lap.ignored).length =
            setup.tunables.urgentTicks.toNat + 1 ∧
          (setup.tunables.urgentTicks.toNat ≤
              ((laps (fed (start setup) occurrences)).filter Lap.ignored).countP Lap.graced ↔
            ((laps (fed (start setup) occurrences)).filter Lap.ignored).countP (!Lap.graced ·) ≤
              1)) := by
  have keeps := keeps_live setup occurrences
  refine ⟨fun ordered => ?_, fun ordered => ?_⟩
  · obtain ⟨since, told, long⟩ := keeps.detach published ordered
    refine ⟨since, told, long, ?_⟩
    rw [← long, ← List.countP_eq_length]
    exact ⟨fun enough => Nat.le_antisymm List.countP_le_length enough, Nat.le_of_eq ∘ Eq.symm⟩
  · have long := keeps.panic published ordered
    exact ⟨long, le_countP_iff long⟩

/-! ### Grace periods without a poll -/

/-- A setup with a caller and limits of three polls each. -/
def pesteredSetup (signals : SignalState) : Setup Tree :=
  { tunables := ({ urgentGraceMs := 60, replyWaitMs := 60 } : Settings).tunables
    signals
    wake := some ⟨0, false⟩
    session := some (Supervisor.introduce {} ⟨"dtsvc.9", 12, 34⟩)
    files := .empty
    tempFiles := [.ofString "/tmp/a"] }

/-- Four signals that mean nothing, each in a wait of its own, up to the tick behind the last; no
time passes. -/
def pesteredLife : List Occurrence :=
  let pestered := .event (.handler .ignorable)
  let iteration := pestered :: List.replicate 20 (.event .act)
  iteration ++ iteration ++ iteration ++ pestered :: List.replicate 11 (.event .act)

theorem pestered_detaches :
    ((start (pesteredSetup { childExited := true })).live pesteredLife).stage =
      .publishing ⟨[.detachSession, .scrubTempFiles], true⟩ := by
  decide +kernel

theorem pestered_panics :
    ((start (pesteredSetup { urgent := true })).live pesteredLife).stage =
      .publishing ⟨[.panic], false⟩ := by
  decide +kernel

/-- Three iterations since the report, and four with the signal ignored. -/
theorem windows_pestered :
    (∃ since,
      SinceReport (start (pesteredSetup { childExited := true })).core
          (fed (start (pesteredSetup { childExited := true })) pesteredLife) since ∧
        since.length = 3) ∧
      ((laps (fed (start (pesteredSetup { urgent := true })) pesteredLife)).filter
        Lap.ignored).length = 4 := by
  obtain ⟨since, told, long, -⟩ := (windows_exact pestered_detaches).1 (by decide)
  exact ⟨⟨since, told, long⟩, ((windows_exact pestered_panics).2 (by decide)).1⟩

/-- **No poll expires at all**: the session is given up, and the command is taken for one that
ignores the signal, before any time has passed. -/
theorem windows_without_polls :
    ((pesteredSetup { childExited := true }).tunables.replyTicks = 3 ∧
      .detachSession ∈
        ((start (pesteredSetup { childExited := true })).live pesteredLife).stage.commands ∧
      (laps (fed (start (pesteredSetup { childExited := true })) pesteredLife)).countP
        Lap.expired = 0) ∧
      (pesteredSetup { urgent := true }).tunables.urgentTicks = 3 ∧
      .panic ∈ ((start (pesteredSetup { urgent := true })).live pesteredLife).stage.commands ∧
      (laps (fed (start (pesteredSetup { urgent := true })) pesteredLife)).countP
        Lap.expired = 0 := by
  rw [pestered_detaches, pestered_panics]
  exact ⟨⟨by decide, by decide, by decide +kernel⟩, by decide, by decide, by decide +kernel⟩

end LaunchSupervisor.Reactor
