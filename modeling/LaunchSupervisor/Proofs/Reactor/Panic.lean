import LaunchSupervisor.Proofs.Reactor.Cleanup

/-!
**What a panic leaves behind.** A panic tells the caller, or cleans up if no session is held. A
session that is held is trusted to carry the report: if it does not, because the message cannot be
made or the connection refuses it, there is neither a report nor a cleanup, and no further tick
makes up for it.

* `panicked_told_or_cleaned_iff`: exactly when a panic leaves the caller untold and the temp files
  in place.
* `isPanic_apply`: a panic is seen to from one stage only.
* `Verdict`: how the last action before the end of a panic decides it.
-/

namespace LaunchSupervisor.Reactor

variable {φ : Type}

/-- Whether a panic is being seen to, past the report or the cleanup. -/
def Stage.isPanic : Stage → Bool
  | .panicDetaching => true
  | .panicked => true
  | .finished exit => exit == .panicked
  | _ => false

/-- Whether a report was accepted since the reactor was set up. -/
def Told (setup : Setup φ) (reactor : Reactor φ) : Prop :=
  ∃ first last, setup.session = some first ∧ reactor.session = some last ∧
    Session.HeardSince first last

/-- **A panic that goes by unnoticed**: the session is held, and a report would go unheard. -/
def Unnoticed (setup : Setup φ) (reactor : Reactor φ) : Prop :=
  reactor.stage = .panicking ∧ ∃ first session, setup.session = some first ∧
    reactor.session = some session ∧ session.attached ∧ Session.Muted first session

/-! ### The way into a panic -/

section

variable [FileSystem φ]

/-- **A panic is seen to from one stage only,** and once it is, it runs to its end. -/
theorem isPanic_step (reactor : Reactor φ) :
    reactor.step.stage.isPanic =
      (reactor.stage.isPanic || decide (reactor.stage = .panicking)) := by
  cases stage : reactor.stage with
  | top | pollExited | recheck | opening =>
    simp only [step, stage]
    split <;> rfl
  | waiting deadline =>
    simp only [step, stage]
    rcases stage_await reactor deadline with same | ⟨wake, wakes⟩
    · rw [same, stage]
      rfl
    · rw [wakes]
      rfl
  | receiving learnt =>
    simp only [step, stage]
    obtain ⟨more, next | next⟩ := stage_receiveNext reactor learnt <;> rw [next] <;> rfl
  | learning learnt => cases learnt <;> simp only [step, stage] <;> rfl
  | executing commands keepRunning =>
    cases commands with
    | nil => cases keepRunning <;> simp only [step, stage] <;> rfl
    | cons command rest => cases command <;> simp only [step, stage] <;> rfl
  | panicking =>
    simp only [step, stage, panic]
    split <;> rfl
  | finished exit =>
    rw [step_finished stage, stage]
    simp
  | _ =>
    simp only [step, stage]
    rfl

theorem isPanic_apply {reactor : Reactor φ} {event : Event}
    (alive : (reactor.apply event).stage ≠ .finished .atOnce)
    (other : ¬ (event = .act ∧ reactor.stage = .panicking)) :
    (reactor.apply event).stage.isPanic = reactor.stage.isPanic := by
  by_cases acts : event = .act
  · have elsewhere : reactor.stage ≠ .panicking := fun panicking => other ⟨acts, panicking⟩
    rw [acts, apply_act, isPanic_step, decide_eq_false elsewhere, Bool.or_false]
  · rw [(kept_outside acts alive).2]

/-- Nothing is cleaned up once a panic is past its report. -/
theorem scrubbed_apply_of_isPanic {reactor : Reactor φ} {event : Event}
    (alive : (reactor.apply event).stage ≠ .finished .atOnce) (panics : reactor.stage.isPanic) :
    (reactor.apply event).scrubbed = reactor.scrubbed := by
  have turn := turn_apply alive
  generalize reactor.apply event = next at turn
  cases turn with
  | calm calm => exact calm.scrubbed
  | receive stage => simp [stage, Stage.isPanic] at panics
  | learn stage => simp [stage, Stage.isPanic] at panics
  | tick stage => simp [stage, Stage.isPanic] at panics
  | scrub stage => simp [stage, Stage.isPanic] at panics
  | abandon stage => simp [stage, Stage.isPanic] at panics

/-! ### What decides a panic -/

/-- **How a panic is decided**: by a scrub, or by a report that goes unheard exactly if the panic
goes by unnoticed. -/
structure Verdict (setup : Setup φ) (events : List Event) (reactor : Reactor φ) : Prop where
  before : reactor.stage.isPanic = false → ¬ Met (start setup) events (Unnoticed setup)
  after : reactor.stage.isPanic →
    reactor.scrubbed ∧ ¬ Met (start setup) events (Unnoticed setup) ∨
      reactor.scrubbed = false ∧ ∃ first session, setup.session = some first ∧
        reactor.session = some session ∧ session.doneSent ∧
        (Session.HeardSince first session ↔ ¬ Met (start setup) events (Unnoticed setup))

variable {setup : Setup φ} {events : List Event}

omit [FileSystem φ] in
theorem Unnoticed.attached {reactor : Reactor φ} (unnoticed : Unnoticed setup reactor) :
    reactor.attached := by
  obtain ⟨-, first, session, -, held, attached, -⟩ := unnoticed
  exact (attached_iff reactor).mpr ⟨session, held, attached⟩

omit [FileSystem φ] in
theorem unnoticed_iff {reactor : Reactor φ} {first session : Session Bus.Scripted}
    (panicking : reactor.stage = .panicking) (started : setup.session = some first)
    (held : reactor.session = some session) (attached : session.attached) :
    Unnoticed setup reactor ↔ Session.Muted first session := by
  constructor
  · rintro ⟨-, other, same, started_, held_, -, muted⟩
    rw [started] at started_
    rw [held] at held_
    cases started_
    cases held_
    exact muted
  · exact fun muted => ⟨panicking, first, session, started, held, attached, muted⟩

/-- The panic itself. -/
theorem Verdict.panic {reactor : Reactor φ} (verdict : Verdict setup events reactor)
    (account : Account setup events reactor) (here : (start setup).run events = reactor)
    (panicking : reactor.stage = .panicking) :
    Verdict setup (events ++ [.act]) reactor.panic := by
  have fresh := verdict.before (by rw [panicking]; rfl)
  have now : Met (start setup) (events ++ [.act]) (Unnoticed setup) ↔
      Unnoticed setup reactor := by
    rw [met_concat_iff, here]
    simp [fresh]
  unfold Reactor.panic
  split
  · rename_i attached
    obtain ⟨session, held, attached⟩ := (attached_iff reactor).mp attached
    obtain ⟨first, started, since⟩ := exists_session_of_run (by rw [here]; exact held)
    constructor
    · intro begun
      cases begun
    · refine fun _ => Or.inr ⟨?_, first, session.reportDone .failed, started, ?_,
        Session.doneSent_reportDone session .failed, ?_⟩
      · rw [Bool.eq_false_iff]
        intro scrubbed
        have gone := account.orphaned scrubbed
        rw [(attached_iff reactor).mpr ⟨session, held, attached⟩] at gone
        cases gone
      · show reactor.session.map _ = _
        rw [held]
        rfl
      · rw [now, unnoticed_iff panicking started held attached]
        exact Session.heardSince_reportDone_iff since attached .failed
  · rename_i gone
    constructor
    · intro begun
      cases begun
    · refine fun _ => Or.inl ⟨?_, ?_⟩
      · rw [account.scrub_eq]
        rfl
      · rw [now]
        exact fun unnoticed => gone unnoticed.attached

/-- Everything else. -/
theorem Verdict.keep {reactor : Reactor φ} (verdict : Verdict setup events reactor)
    (here : (start setup).run events = reactor) {event : Event}
    (alive : (reactor.apply event).stage ≠ .finished .atOnce)
    (other : ¬ (event = .act ∧ reactor.stage = .panicking)) :
    Verdict setup (events ++ [event]) (reactor.apply event) := by
  -- Nothing but the panic itself is met unnoticed, and a report is not made again after it.
  have same : Met (start setup) (events ++ [event]) (Unnoticed setup) ↔
      Met (start setup) events (Unnoticed setup) := by
    rw [met_concat_iff, here]
    constructor
    · rintro (before | ⟨acts, panicking, -⟩)
      · exact before
      · exact absurd ⟨acts, panicking⟩ other
    · exact Or.inl
  constructor
  · intro begun
    rw [isPanic_apply alive other] at begun
    rw [same]
    exact verdict.before begun
  · intro panics
    rw [isPanic_apply alive other] at panics
    rw [scrubbed_apply_of_isPanic alive panics, same]
    rcases verdict.after panics with cleaned |
        ⟨unscrubbed, first, session, started, held, sent, heard⟩
    · exact Or.inl cleaned
    · obtain ⟨next, heldNext, later⟩ := exists_session_run held [event]
      obtain ⟨start, began, since⟩ := exists_session_of_run (by rw [here]; exact held)
      cases started.symm.trans began
      refine Or.inr ⟨unscrubbed, first, next, started, heldNext, (later.silent sent).1, ?_⟩
      rw [Session.heardSince_iff, since.settled later sent, ← Session.heardSince_iff]
      exact heard

theorem verdict_start (setup : Setup φ) : Verdict setup [] (start setup) := by
  constructor
  · rintro - ⟨before, after, split, -⟩
    cases before <;> cases split
  · intro panics
    cases panics

/-- **The verdict on every run** that no handler has ended. -/
theorem verdict_run (setup : Setup φ) (events : List Event)
    (alive : ((start setup).run events).stage ≠ .finished .atOnce) :
    Verdict setup events ((start setup).run events) := by
  refine alive_run_induction (start setup) (verdict_start setup) ?_ alive
  intro events event before verdict after
  by_cases panics : event = .act ∧ ((start setup).run events).stage = .panicking
  · obtain ⟨rfl, panicking⟩ := panics
    have act : ((start setup).run events).step = ((start setup).run events).panic := by
      simp only [step, panicking]
    rw [apply_act, act]
    exact verdict.panic (account_run setup events before) rfl panicking
  · exact verdict.keep rfl after panics

end

/-! ### The statement -/

/-- **Exactly when a panic leaves the caller untold and the temp files in place.** -/
theorem panicked_told_or_cleaned_iff {setup : Setup Tree} {events : List Event}
    (panicked : ((start setup).run events).stage = .finished .panicked) :
    Told setup ((start setup).run events) ∨ Cleaned setup ((start setup).run events) ↔
      setup.tempFiles = [] ∨ ¬ Met (start setup) events (Unnoticed setup) := by
  have alive : ((start setup).run events).stage ≠ .finished .atOnce := by simp [panicked]
  have account := account_run setup events alive
  have verdict := verdict_run setup events alive
  rcases verdict.after (by rw [panicked]; rfl) with ⟨scrubbed, noticed⟩ |
      ⟨unscrubbed, first, session, started, held, -, heard⟩
  · exact iff_of_true (Or.inr (account.cleaned scrubbed)) (Or.inr noticed)
  · have told : Told setup ((start setup).run events) ↔ Session.HeardSince first session := by
      constructor
      · rintro ⟨first_, session_, started_, held_, heard⟩
        cases started.symm.trans started_
        cases held.symm.trans held_
        exact heard
      · exact fun heard => ⟨first, session, started, held, heard⟩
    rw [told, heard, (account.untouched unscrubbed).cleaned_iff]
    exact Or.comm

/-! ### A panic that goes by unnoticed -/

/-- A setup with a temp file and a caller, whose connection refuses all it is to send. -/
def refusedSetup : Setup Tree :=
  { tunables := ({} : Settings).tunables
    signals := { panic := true }
    session := some (.start { refusal := fun _ => some .detached } ⟨"dtsvc.9", 12, 34⟩)
    files := .empty
    tempFiles := [.ofString "/tmp/a"] }

/-- The run of a panic that was asked for before the first iteration. -/
def panicRun : List Event :=
  List.replicate 4 .act

theorem refused_panicked :
    ((start refusedSetup).run panicRun).stage = .finished .panicked := by decide +kernel

theorem refused_untold : ¬ Told refusedSetup ((start refusedSetup).run panicRun) := by
  rintro ⟨first, last, started, held, heard⟩
  obtain ⟨message, made⟩ := (Session.heardSince_iff first last).mp heard
  have none : (refusedSetup.session.bind fun first =>
      ((start refusedSetup).run panicRun).session.map fun last =>
        (Session.reportsSince first last).any (·.2)) = some false := by decide +kernel
  rw [started, held] at none
  simp only [Option.bind_some, Option.map_some, Option.some.injEq, List.any_eq_false] at none
  exact none _ made rfl

theorem refused_uncleaned : ¬ Cleaned refusedSetup ((start refusedSetup).run panicRun) := by
  have untouched : ((start refusedSetup).run panicRun).files.changes = [] := by decide +kernel
  unfold Cleaned
  rw [untouched]
  intro cleaned
  cases cleaned

/-- The caller is untold and the temp file is in place. -/
theorem panicked_untold_uncleaned :
    ((start refusedSetup).run panicRun).stage = .finished .panicked ∧
      ¬ (Told refusedSetup ((start refusedSetup).run panicRun) ∨
        Cleaned refusedSetup ((start refusedSetup).run panicRun)) :=
  ⟨refused_panicked, fun kept => kept.elim refused_untold refused_uncleaned⟩

/-- It is the report that goes unheard. -/
theorem panicked_unnoticed :
    ((start refusedSetup).run panicRun).stage = .finished .panicked ∧
      Met (start refusedSetup) panicRun (Unnoticed refusedSetup) := by
  refine ⟨refused_panicked, ?_⟩
  have exactly := panicked_told_or_cleaned_iff refused_panicked
  by_cases met : Met (start refusedSetup) panicRun (Unnoticed refusedSetup)
  · exact met
  · rcases exactly.mpr (Or.inr met) with told | cleaned
    · exact absurd told refused_untold
    · exact absurd cleaned refused_uncleaned

end LaunchSupervisor.Reactor
