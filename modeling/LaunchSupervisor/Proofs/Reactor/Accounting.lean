import LaunchSupervisor.Proofs.Reactor.Cleanup
import LaunchSupervisor.Supervisor

/-!
**A completed run accounts for its temp files.** Either each of them was given to its owner and
removed, in order and once, whatever of that failed; or none was touched, because the caller had
acknowledged the run's own report and the session was still held when the shutdown came to its end.

* `tempFiles_accounted`: the statement, with what holds in every run that no handler has ended.
* `reported_of_met`: an acknowledgement names the one report that the run has made.
* `unreported_introduce`: sessions stand before their report when the supervisor starts.
-/

namespace LaunchSupervisor.Reactor

/-! ### The run's own report -/

/-- Whether a message is the one report that was made since the reactor was set up, and was
accepted. -/
def Reported {φ : Type} (setup : Setup φ) (reactor : Reactor φ) (message : Bus.Message) : Prop :=
  ∃ first last, setup.session = some first ∧ reactor.session = some last ∧
    Session.reportsSince first last = [(message, true)]

/-- An acknowledgement that was received is one of the run's own report. -/
theorem reported_of_met {φ : Type} [FileSystem φ] {setup : Setup φ} {events : List Event}
    {id : UInt64} (unreported : ∀ session ∈ setup.session, session.Unreported)
    (met : Met (start setup) events (Acknowledging id)) :
    ∃ message, message.id = id ∧ Reported setup ((start setup).run events) message := by
  obtain ⟨before, after, split, learnt, session, -, held, -, awaited, -⟩ := met
  obtain ⟨first, started, since⟩ := exists_session_of_run held
  obtain ⟨message, made, same⟩ := since.awaited (unreported first started) id awaited
  have sent : session.doneSent := by
    cases unsent : session.doneSent with
    | true => rfl
    | false => simp [since.unsent unsent] at made
  obtain ⟨last, ended, later⟩ := exists_session_run held (.act :: after)
  refine ⟨message, same, first, last, started, ?_, ?_⟩
  · rw [split, run_append, ended]
  · rw [since.settled later sent, made]

theorem unreported_introduce (connection : Bus.Scripted) (caller : Caller) :
    (Supervisor.introduce connection caller).Unreported :=
  ((Session.quiet_join _).trans (Session.quiet_identify _)).unreported
    (Session.unreported_start connection caller)

/-! ### The statement -/

/-- **A completed run accounts for its temp files,** and no run touches them twice. -/
theorem tempFiles_accounted (setup : Setup Tree) (events : List Event)
    (unreported : ∀ session ∈ setup.session, session.Unreported) :
    (((start setup).run events).stage = .finished .completed →
      Cleaned setup ((start setup).run events) ∨
        Untouched setup ((start setup).run events) ∧
          ∃ message, Reported setup ((start setup).run events) message ∧
            Met (start setup) events (Acknowledging message.id) ∧
            Met (start setup) events Lingering) ∧
      (((start setup).run events).stage ≠ .finished .atOnce →
        Untouched setup ((start setup).run events) ∨
          Cleaned setup ((start setup).run events)) := by
  constructor
  · intro completed
    have account := account_run setup events (by simp [completed])
    have idle : ((start setup).run events).stage.commands = [] := by rw [completed]; rfl
    have last : ((start setup).run events).core.phase = .finalLinger := by
      rcases account.last (by rw [completed]; rfl) with last | panics
      · exact last
      · simp [idle] at panics
    cases scrubbed : ((start setup).run events).scrubbed with
    | true => exact Or.inl (account.cleaned scrubbed)
    | false =>
      rcases account.settled last with already | ordered | ⟨⟨id, acknowledged⟩, lingering⟩
      · simp [scrubbed] at already
      · simp [idle] at ordered
      · obtain ⟨message, rfl, reported⟩ := reported_of_met unreported acknowledged
        exact Or.inr ⟨account.untouched scrubbed, message, reported, acknowledged, lingering⟩
  · intro alive
    have account := account_run setup events alive
    cases scrubbed : ((start setup).run events).scrubbed with
    | true => exact Or.inr (account.cleaned scrubbed)
    | false => exact Or.inl (account.untouched scrubbed)

/-! ### A run that is excused -/

/-- A setup with a temp file and a caller, for a command that is over. -/
def attendedSetup : Setup Tree :=
  { tunables := ({} : Settings).tunables
    signals := { childExited := true }
    session := some (Supervisor.introduce {} ⟨"dtsvc.9", 12, 34⟩)
    files := .empty
    tempFiles := [.ofString "/tmp/a"] }

/-- A short poll that ends by itself, and all that the reactor can do until the next one. -/
def round : List Event :=
  .elapse 20 :: List.replicate 40 .act

/-- The events of a run in which the caller acknowledges the report. -/
def acknowledgedRun : List Event :=
  List.replicate 3 .act ++ round ++ .arrive [.ok (some (.reply 2 .handled .ok))] :: round ++ round

/-- The caller keeps the temp file. -/
theorem tempFiles_left_to_caller :
    ((start attendedSetup).run acknowledgedRun).stage = .finished .completed ∧
      Untouched attendedSetup ((start attendedSetup).run acknowledgedRun) ∧
      ∃ message, Reported attendedSetup ((start attendedSetup).run acknowledgedRun) message ∧
        Met (start attendedSetup) acknowledgedRun (Acknowledging message.id) ∧
        Met (start attendedSetup) acknowledgedRun Lingering := by
  have completed : ((start attendedSetup).run acknowledgedRun).stage = .finished .completed := by
    decide +kernel
  have unreported : ∀ session ∈ attendedSetup.session, session.Unreported := by
    intro session held
    cases held
    exact unreported_introduce _ _
  have left : ((start attendedSetup).run acknowledgedRun).files.changes = [] := by decide +kernel
  refine ⟨completed, ?_⟩
  rcases (tempFiles_accounted attendedSetup acknowledgedRun unreported).1 completed
    with cleaned | excused
  · unfold Cleaned at cleaned
    rw [left] at cleaned
    cases cleaned
  · exact excused

end LaunchSupervisor.Reactor
