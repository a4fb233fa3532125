import LaunchSupervisor.Files.Tree
import LaunchSupervisor.Proofs.Reactor.Turn

/-!
**The cleanup over a whole run.** `Account` keeps the books: what has become of the temp files, what
is still ordered, and on what grounds they were left to the caller. Every event of a run keeps it
(`Account.apply`), so it holds to the end (`account_run`), unless a handler ends the process.

* `Account.settled`: in the last phase the scrub was made, or is ordered, or the report was
  acknowledged and the session held.
* `Account.orphaned`: whoever has scrubbed holds no session.
* `Account.last`: the loop is left in the last phase, or for a panic.
* `Account.cleaned`, `Account.untouched`: what was asked of the file system.
-/

namespace LaunchSupervisor.Reactor

open Shutdown (Command Guarded)

variable {φ : Type}

/-! ### The grounds on which temp files are left alone -/

/-- With its next action the reactor takes in that the request `id`, its report, was handled. -/
def Acknowledging (id : UInt64) (reactor : Reactor φ) : Prop :=
  ∃ learnt session, reactor.stage = .receiving learnt ∧ reactor.session = some session ∧
    session.Acknowledged id

/-- With its next action the reactor enters the last phase, and it holds the session. -/
def Lingering (reactor : Reactor φ) : Prop :=
  ∃ exited urgent, reactor.stage = .ticking exited urgent ∧ reactor.attached ∧
    reactor.core.phase ≠ .finalLinger ∧ (reactor.tick exited urgent).core.phase = .finalLinger

variable [FileSystem φ]

/-- Whether the caller has acknowledged the report in a run. -/
def Excused (first : Reactor φ) (events : List Event) : Prop :=
  ∃ id, Met first events (Acknowledging id)

theorem Excused.concat {first : Reactor φ} {events : List Event} (excused : Excused first events)
    (event : Event) : Excused first (events ++ [event]) := by
  obtain ⟨id, met⟩ := excused
  exact ⟨id, met.concat event⟩

/-! ### The account -/

/-- The files once the temp files of a setup were scrubbed. -/
def scrubbedFiles (setup : Setup φ) : φ :=
  setup.tempFiles.foldl scrubFile setup.files

/-- **The account of a run's cleanup.** -/
structure Account (setup : Setup φ) (events : List Event) (reactor : Reactor φ) : Prop where
  tempFiles : reactor.tempFiles = setup.tempFiles
  files : reactor.files = if reactor.scrubbed then scrubbedFiles setup else setup.files
  /-- The scrub is ordered once, in the last phase, and then was not made before. -/
  once : reactor.stage.commands.count .scrubTempFiles ≤ 1
  ordered : .scrubTempFiles ∈ reactor.stage.commands →
    reactor.scrubbed = false ∧ reactor.core.phase = .finalLinger
  early : reactor.scrubbed → reactor.core.phase = .finalLinger ∨ reactor.stage.isOver
  /-- Whoever has scrubbed, or is to scrub next, holds no session. -/
  orphaned : reactor.scrubbed → reactor.attached = false
  guarded : Guarded reactor.attached reactor.stage.commands
  lost : reactor.core.phase = .panicCleanup → reactor.attached = false
  failed : .doneFailed ∈ reactor.stage.learnt → reactor.attached = false
  /-- A panic is ordered alone, and the loop is left for one or in the last phase. -/
  alone : .panic ∈ reactor.stage.commands → reactor.stage.commands = [.panic]
  last : reactor.stage.isLast →
    reactor.core.phase = .finalLinger ∨ .panic ∈ reactor.stage.commands
  /-- An acknowledgement was received before it was learnt, and learnt before it counts. -/
  learnt : .doneReplied ∈ reactor.stage.learnt → Excused (start setup) events
  replied : reactor.core.phase = .replied → Excused (start setup) events
  settled : reactor.core.phase = .finalLinger →
    reactor.scrubbed ∨ .scrubTempFiles ∈ reactor.stage.commands ∨
      (Excused (start setup) events ∧ Met (start setup) events Lingering)

theorem account_start (setup : Setup φ) : Account setup [] (start setup) where
  tempFiles := rfl
  files := rfl
  once := Nat.zero_le 1
  ordered := fun ordered => by cases ordered
  early := fun scrubbed => by cases scrubbed
  orphaned := fun scrubbed => by cases scrubbed
  guarded := trivial
  lost := fun phase => by cases phase
  failed := fun failed => by cases failed
  alone := fun panics => by cases panics
  last := fun ends => by cases ends
  learnt := fun learnt => by cases learnt
  replied := fun phase => by cases phase
  settled := fun phase => by cases phase

variable {setup : Setup φ} {events : List Event} {reactor : Reactor φ}

namespace Account

theorem settled_concat (account : Account setup events reactor) (event : Event)
    (phase : reactor.core.phase = .finalLinger) :
    reactor.scrubbed ∨ .scrubTempFiles ∈ reactor.stage.commands ∨
      (Excused (start setup) (events ++ [event]) ∧
        Met (start setup) (events ++ [event]) Lingering) := by
  rcases account.settled phase with scrubbed | ordered | ⟨excused, lingering⟩
  · exact Or.inl scrubbed
  · exact Or.inr (Or.inl ordered)
  · exact Or.inr (Or.inr ⟨excused.concat event, lingering.concat event⟩)

/-- With nothing ordered, the temp files are scrubbed or rightly left alone. -/
theorem settled_idle (account : Account setup events reactor) (event : Event)
    (idle : reactor.stage.commands = []) (phase : reactor.core.phase = .finalLinger) :
    reactor.scrubbed ∨
      Excused (start setup) (events ++ [event]) ∧
        Met (start setup) (events ++ [event]) Lingering := by
  rcases account.settled_concat event phase with scrubbed | ordered | excused
  · exact Or.inl scrubbed
  · rw [idle] at ordered
    cases ordered
  · exact Or.inr excused

/-- Before the end of a panic, nothing is scrubbed but in the last phase. -/
theorem early_begun (account : Account setup events reactor) (begun : reactor.stage.isOver = false)
    (scrubbed : reactor.scrubbed) : reactor.core.phase = .finalLinger := by
  rcases account.early scrubbed with last | ended
  · exact last
  · rw [begun] at ended
    cases ended

/-- A panic leaves no order to clean up. -/
theorem not_panic (account : Account setup events reactor)
    (ordered : .scrubTempFiles ∈ reactor.stage.commands) : .panic ∉ reactor.stage.commands := by
  intro panics
  rw [account.alone panics] at ordered
  cases ordered with
  | tail _ later => cases later

theorem calm (account : Account setup events reactor) {event : Event} {next : Reactor φ}
    (calm : Calm reactor next) : Account setup (events ++ [event]) next where
  tempFiles := calm.tempFiles.trans account.tempFiles
  files := by rw [calm.files, calm.scrubbed, account.files]
  once := Nat.le_trans (calm.orders.sublist.count_le _) account.once
  ordered := fun ordered => by
    rw [calm.scrubbed, calm.core]
    exact account.ordered (calm.orders.subset ordered)
  early := fun scrubbed => by
    rw [calm.scrubbed] at scrubbed
    rw [calm.core]
    exact (account.early scrubbed).imp_right calm.ended
  orphaned := fun scrubbed => by
    rw [calm.scrubbed] at scrubbed
    exact calm.gone (account.orphaned scrubbed)
  guarded := calm.guarded account.guarded
  lost := fun phase => by
    rw [calm.core] at phase
    exact calm.gone (account.lost phase)
  failed := fun failed => calm.gone (account.failed (calm.learnt failed))
  alone := fun panics => by
    have alone := account.alone (calm.orders.subset panics)
    have orders := calm.orders
    rw [alone, List.suffix_cons_iff] at orders
    rcases orders with same | nothing
    · exact same
    · rw [List.suffix_nil.mp nothing] at panics
      cases panics
  last := fun ends => by
    obtain ⟨last, panics⟩ := calm.last ends
    rw [calm.core]
    exact (account.last last).imp_right panics
  learnt := fun learnt => (account.learnt (calm.learnt learnt)).concat event
  replied := fun phase => by
    rw [calm.core] at phase
    exact (account.replied phase).concat event
  settled := fun phase => by
    rw [calm.core] at phase
    rcases account.settled_concat event phase with scrubbed | ordered | excused
    · exact Or.inl (calm.scrubbed.trans scrubbed)
    · rcases calm.kept ordered with still | panics
      · exact Or.inr (Or.inl still)
      · exact absurd panics (account.not_panic ordered)
    · exact Or.inr (Or.inr excused)

/-! ### Receiving -/

theorem receive (account : Account setup events reactor)
    (here : (start setup).run events = reactor) {learnt : List SessionEvent}
    (stage : reactor.stage = .receiving learnt) :
    Account setup (events ++ [.act]) (reactor.receiveNext learnt) := by
  have kept := kept_receiveNext reactor learnt
  have bare : (reactor.receiveNext learnt).stage.commands = [] ∧
      (reactor.receiveNext learnt).stage.isLast = false := by
    obtain ⟨more, next | next⟩ := stage_receiveNext reactor learnt
    · rw [next]
      exact ⟨rfl, rfl⟩
    · rw [next]
      exact ⟨rfl, rfl⟩
  obtain ⟨orders, goesOn⟩ := bare
  have known : reactor.stage.learnt = learnt := by rw [stage]; rfl
  exact {
    tempFiles := kept.tempFiles.trans account.tempFiles
    files := by rw [kept.files, kept.scrubbed, account.files]
    once := by simp [orders]
    ordered := by simp [orders]
    early := fun scrubbed => by
      rw [kept.scrubbed] at scrubbed
      rw [kept.core]
      exact Or.inl (account.early_begun (by rw [stage]; rfl) scrubbed)
    orphaned := fun scrubbed => by
      rw [kept.scrubbed] at scrubbed
      exact kept.gone (account.orphaned scrubbed)
    guarded := by
      rw [orders]
      trivial
    lost := fun phase => by
      rw [kept.core] at phase
      exact kept.gone (account.lost phase)
    failed := fun failed => by
      rcases learnt_receiveNext failed with before | ⟨session, -, now, same⟩
      · exact kept.gone (account.failed (by rwa [known]))
      · rw [same]
        exact Session.receiveNext_doneFailed now
    alone := by simp [orders]
    last := by simp [goesOn]
    -- An acknowledgement that is learnt now is one that the session has taken in with this event.
    learnt := fun replied => by
      rcases learnt_receiveNext replied with before | ⟨session, held, now, -⟩
      · exact (account.learnt (by rwa [known])).concat _
      · obtain ⟨id, acknowledged⟩ := Session.receiveNext_doneReplied now
        exact ⟨id, Met.last here ⟨learnt, session, stage, held, acknowledged⟩⟩
    replied := fun phase => by
      rw [kept.core] at phase
      exact (account.replied phase).concat _
    settled := fun phase => by
      rw [kept.core] at phase
      rw [kept.scrubbed]
      exact (account.settled_idle .act (by rw [stage]; rfl) phase).imp_right Or.inr }

/-! ### Telling the shutdown -/

theorem learn (account : Account setup events reactor) {event : SessionEvent}
    {rest : List SessionEvent} (stage : reactor.stage = .learning (event :: rest)) :
    Account setup (events ++ [.act]) ((reactor.learn event).goto (.learning rest)) := by
  have known : reactor.stage.learnt = event :: rest := by rw [stage]; rfl
  rw [learn_eq]
  exact {
    tempFiles := account.tempFiles
    files := account.files
    once := Nat.zero_le 1
    ordered := fun ordered => by cases ordered
    early := fun scrubbed => by
      have last := account.early_begun (by rw [stage]; rfl) scrubbed
      exact Or.inl ((learn_finalLinger reactor event).mpr last)
    orphaned := account.orphaned
    guarded := trivial
    lost := fun lost => by
      rcases learn_panicCleanup lost with before | rfl
      · exact account.lost before
      · exact account.failed (by rw [known]; exact List.mem_cons_self)
    failed := fun failed => account.failed (by rw [known]; exact List.mem_cons_of_mem _ failed)
    alone := fun panics => by cases panics
    last := fun ends => by cases ends
    learnt := fun replied =>
      (account.learnt (by rw [known]; exact List.mem_cons_of_mem _ replied)).concat _
    replied := fun replied => by
      rcases learn_replied replied with before | rfl
      · exact (account.replied before).concat _
      · exact (account.learnt (by rw [known]; exact List.mem_cons_self)).concat _
    settled := fun last => by
      have before := (learn_finalLinger reactor event).mp last
      exact (account.settled_idle .act (by rw [stage]; rfl) before).imp_right Or.inr }

/-! ### A tick -/

theorem tick (account : Account setup events reactor) (here : (start setup).run events = reactor)
    {exited urgent : Bool} (stage : reactor.stage = .ticking exited urgent) :
    Account setup (events ++ [.act]) (reactor.tick exited urgent) where
  tempFiles := account.tempFiles
  files := account.files
  once := Shutdown.Core.count_scrub_tick _ _
  ordered := fun ordered => by
    obtain ⟨before, after⟩ := Shutdown.Core.scrub_mem_tick ordered
    refine ⟨Bool.eq_false_iff.mpr fun scrubbed => before ?_, after⟩
    exact account.early_begun (by rw [stage]; rfl) scrubbed
  early := fun scrubbed => by
    have already := account.early_begun (by rw [stage]; rfl) scrubbed
    exact Or.inl (Shutdown.Core.tick_of_finalLinger _ already)
  orphaned := account.orphaned
  guarded :=
    Shutdown.Core.guarded_tick reactor.core ⟨exited, urgent, reactor.attached⟩ account.lost
  lost := fun phase => account.lost (Shutdown.Core.tick_phase (Or.inr rfl) phase)
  failed := fun failed => by cases failed
  alone := fun panics => Shutdown.Core.panic_mem_tick panics
  last := fun ends => Shutdown.Core.tick_stops (by simpa [Stage.isLast, Reactor.tick] using ends)
  learnt := fun learnt => by cases learnt
  replied := fun phase => (account.replied (Shutdown.Core.tick_phase (Or.inl rfl) phase)).concat _
  settled := fun phase => by
    rcases Shutdown.Core.tick_finalLinger phase with already | ordered | ⟨replied, held⟩
    · exact (account.settled_idle .act (by rw [stage]; rfl) already).imp_right Or.inr
    · exact Or.inr (Or.inl ordered)
    · have early : reactor.core.phase ≠ .finalLinger := by
        rw [replied]
        decide
      exact Or.inr (Or.inr ⟨(account.replied replied).concat _,
        Met.last here ⟨exited, urgent, stage, held, early, phase⟩⟩)

/-! ### Scrubbing -/

/-- What a scrub leaves, made for the first time or not. -/
theorem scrub_eq (account : Account setup events reactor) :
    reactor.scrub = { reactor with scrubbed := true, files := scrubbedFiles setup } := by
  have files := account.files
  unfold Reactor.scrub
  split
  · rename_i already
    rw [if_pos already] at files
    rw [← files, ← already]
  · rename_i first
    rw [if_neg first] at files
    rw [files, account.tempFiles]
    rfl

theorem scrub (account : Account setup events reactor) {rest : List Command} {keepRunning : Bool}
    (stage : reactor.stage = .executing (.scrubTempFiles :: rest) keepRunning) :
    Account setup (events ++ [.act]) (reactor.scrub.goto (.executing rest keepRunning)) := by
  have orders : reactor.stage.commands = .scrubTempFiles :: rest := by rw [stage]; rfl
  have once := account.once
  have guarded := account.guarded
  obtain ⟨-, last⟩ := account.ordered (by rw [orders]; exact List.mem_cons_self)
  rw [orders] at once guarded
  have spent : .scrubTempFiles ∉ rest := by
    rw [List.count_cons_self] at once
    rw [← List.count_eq_zero]
    omega
  rw [account.scrub_eq]
  exact {
    tempFiles := account.tempFiles
    files := rfl
    once := by
      show rest.count .scrubTempFiles ≤ 1
      rw [List.count_eq_zero.mpr spent]
      exact Nat.zero_le 1
    ordered := fun ordered => absurd ordered spent
    early := fun _ => Or.inl last
    orphaned := fun _ => guarded.1
    guarded := guarded.2
    lost := account.lost
    failed := fun failed => by cases failed
    alone := fun panics => by
      have alone := account.alone (by rw [orders]; exact List.mem_cons_of_mem _ panics)
      rw [orders] at alone
      cases alone
    last := fun _ => Or.inl last
    learnt := fun learnt => by cases learnt
    replied := fun replied => (account.replied replied).concat _
    settled := fun _ => Or.inl rfl }

theorem abandon (account : Account setup events reactor) (gone : reactor.attached = false) :
    Account setup (events ++ [.act]) (reactor.scrub.goto .panicked) := by
  rw [account.scrub_eq]
  exact {
    tempFiles := account.tempFiles
    files := rfl
    once := Nat.zero_le 1
    ordered := fun ordered => by cases ordered
    early := fun _ => Or.inr rfl
    orphaned := fun _ => gone
    guarded := trivial
    lost := account.lost
    failed := fun failed => by cases failed
    alone := fun panics => by cases panics
    last := fun ends => by cases ends
    learnt := fun learnt => by cases learnt
    replied := fun replied => (account.replied replied).concat _
    settled := fun _ => Or.inl rfl }

theorem apply {event : Event} (account : Account setup events reactor)
    (here : (start setup).run events = reactor)
    (alive : (reactor.apply event).stage ≠ .finished .atOnce) :
    Account setup (events ++ [event]) (reactor.apply event) := by
  have turn := turn_apply alive
  generalize applied : reactor.apply event = next at turn
  cases turn with
  | calm calm => exact account.calm calm
  | receive stage => exact account.receive here stage
  | learn stage => exact account.learn stage
  | tick stage => exact account.tick here stage
  | scrub stage => exact account.scrub stage
  | abandon _ gone => exact account.abandon gone

end Account

/-- **The account of every run** that no handler has ended. -/
theorem account_run (setup : Setup φ) (events : List Event)
    (alive : ((start setup).run events).stage ≠ .finished .atOnce) :
    Account setup events ((start setup).run events) := by
  refine alive_run_induction (start setup) (account_start setup) ?_ alive
  exact fun events event _ account alive => account.apply rfl alive

/-! ### What a scrub asks for -/

/-- The changes that a scrub of some files asks for. -/
def scrubChanges (paths : List Path) : List FileChange :=
  paths.flatMap fun path => [.restrict path, .remove path]

theorem changes_restrict (tree : Tree) (path : Path) :
    (tree.restrict path).2.changes = tree.changes ++ [.restrict path] := by
  unfold Tree.restrict
  split
  · rfl
  · split <;> rfl

theorem changes_remove (tree : Tree) (path : Path) :
    (tree.remove path).2.changes = tree.changes ++ [.remove path] := by
  unfold Tree.remove
  split
  · rfl
  · split <;> rfl

/-- Both changes are asked for, though the first may have failed. -/
theorem changes_scrubFile (tree : Tree) (path : Path) :
    (scrubFile tree path).changes = tree.changes ++ [.restrict path, .remove path] := by
  show ((tree.restrict path).2.remove path).2.changes = _
  rw [changes_remove, changes_restrict, List.append_assoc]
  rfl

theorem changes_foldl_scrubFile (paths : List Path) (tree : Tree) :
    (paths.foldl scrubFile tree).changes = tree.changes ++ scrubChanges paths := by
  induction paths generalizing tree with
  | nil => simp [scrubChanges]
  | cons path rest ih =>
    rw [List.foldl_cons, ih, changes_scrubFile, List.append_assoc]
    rfl

/-- **Each temp file was given to its owner and removed,** in order and once, and nothing else was
asked of the files. -/
def Cleaned (setup : Setup Tree) (reactor : Reactor Tree) : Prop :=
  reactor.files.changes = setup.files.changes ++ scrubChanges setup.tempFiles

/-- Nothing was asked of the files. -/
def Untouched (setup : Setup Tree) (reactor : Reactor Tree) : Prop :=
  reactor.files.changes = setup.files.changes

theorem Account.cleaned {setup : Setup Tree} {events : List Event} {reactor : Reactor Tree}
    (account : Account setup events reactor) (scrubbed : reactor.scrubbed) :
    Cleaned setup reactor := by
  unfold Cleaned
  rw [account.files, if_pos scrubbed]
  exact changes_foldl_scrubFile setup.tempFiles setup.files

theorem Account.untouched {setup : Setup Tree} {events : List Event} {reactor : Reactor Tree}
    (account : Account setup events reactor) (unscrubbed : reactor.scrubbed = false) :
    Untouched setup reactor := by
  unfold Untouched
  rw [account.files, unscrubbed]
  rfl

/-- Only where there are no temp files are the two the same. -/
theorem Untouched.cleaned_iff {setup : Setup Tree} {reactor : Reactor Tree}
    (untouched : Untouched setup reactor) : Cleaned setup reactor ↔ setup.tempFiles = [] := by
  unfold Untouched at untouched
  unfold Cleaned
  rw [untouched, List.self_eq_append_right]
  cases setup.tempFiles <;> simp [scrubChanges]

end LaunchSupervisor.Reactor
