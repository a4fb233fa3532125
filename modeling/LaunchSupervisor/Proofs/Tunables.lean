import LaunchSupervisor.Proofs.Files.Lasting
import LaunchSupervisor.Tunables.Document
import Mathlib.Tactic.SplitIfs

/-!
**Which tunables come into force.** Settings are accepted or not by what they say as plain numbers:
none of the computations in words, of which one is held at its greatest value and one is narrowed,
has a say in it. A document that gives no acceptable settings, for whatever reason, leaves the
standard ones.

* `Settings.accept_eq_ok_iff`: which settings are accepted, and what comes of them.
* `Tunables.counts_ticksFor`: how the ticks of a window are counted.
* `Tunables.givenBy_or_standard`: what is in force.
* `Tunables.in_force_exact`: the statement.
-/

namespace LaunchSupervisor

/-! ### What is accepted -/

/-- Settings that a supervisor can work by. The two polls are compared as they are, in milliseconds,
however long the longer one is. -/
structure Settings.Workable (settings : Settings) : Prop where
  polls : 1 ≤ settings.shortPollMs.toNat
  tries : 1 ≤ settings.forkAttempts.toNat
  ordered : settings.shortPollMs.toNat ≤ settings.longPollSecs.toNat * 1000
  drains : 1 ≤ settings.flushCeiling.toNat

/-- What is accepted is taken over as it is. -/
theorem Settings.eq_tunables_of_accept {settings : Settings} {tunables : Tunables}
    (accepted : settings.accept = .ok tunables) : tunables = settings.tunables := by
  unfold accept at accepted
  split_ifs at accepted
  exact (Except.ok.inj accepted).symm

/-- **Settings are accepted exactly if they are workable.** -/
theorem Settings.accept_eq_ok_iff (settings : Settings) (tunables : Tunables) :
    settings.accept = .ok tunables ↔ settings.Workable ∧ tunables = settings.tunables := by
  constructor
  · intro accepted
    obtain rfl := eq_tunables_of_accept accepted
    obtain ⟨polls, tries, ordered, drains⟩ := (acceptable_iff settings).mp accepted
    exact ⟨⟨polls, tries, ordered, drains⟩, rfl⟩
  · rintro ⟨workable, rfl⟩
    exact (acceptable_iff settings).mpr
      ⟨workable.polls, workable.tries, workable.ordered, workable.drains⟩

namespace Tunables

/-! ### How ticks are counted -/

/-- **The ticks of a window**: as many short polls as fit into it, so that one more outlasts it; or
the greatest number there is, if there are more. -/
structure Counts (tunables : Tunables) (window : Nat) (ticks : UInt32) : Prop where
  within : window / tunables.shortPoll < UInt32.size → ticks.toNat * tunables.shortPoll ≤ window
  outlasted : window / tunables.shortPoll < UInt32.size →
    window < (ticks.toNat + 1) * tunables.shortPoll
  held : UInt32.size ≤ window / tunables.shortPoll → ticks.toNat = UInt32.size - 1

theorem ticksFor_of_le {tunables : Tunables} {window : Nat} (positive : 0 < tunables.shortPoll)
    (many : UInt32.size ≤ window / tunables.shortPoll) :
    tunables.ticksFor window = 4294967295 := by
  have same : max tunables.shortPoll 1 = tunables.shortPoll := by omega
  rw [ticksFor, same, if_neg (Nat.not_lt.mpr many)]

theorem counts_ticksFor {tunables : Tunables} (positive : 0 < tunables.shortPoll) (window : Nat) :
    tunables.Counts window (tunables.ticksFor window) where
  within fits := ticksFor_le positive fits
  outlasted fits := lt_ticksFor_succ positive fits
  held many := by
    rw [ticksFor_of_le positive many]
    rfl

/-! ### What is in force -/

section

variable {φ : Type} [FileSystem φ]

/-- **The tunables that a named document gives**: it can be read, it is a document of settings, and
they are workable. -/
inductive GivenBy (files : φ) (environment : Environment) : Tunables → Prop where
  | document {path : Path} {text : String} {settings : Settings}
    (named : environment.tunablesFile = some path)
    (readable : FileSystem.readText files path = .ok text)
    (read : Document.read text.toList = some settings) (workable : settings.Workable) :
    GivenBy files environment settings.tunables

theorem load_eq_ok_iff (files : φ) (path : Path) (tunables : Tunables) :
    load files path = .ok tunables ↔ ∃ text settings,
      FileSystem.readText files path = .ok text ∧ Document.read text.toList = some settings ∧
        settings.accept = .ok tunables := by
  unfold load Settings.load
  cases readable : FileSystem.readText files path with
  | error cause => simp
  | ok text =>
    cases read : Document.read text.toList with
    | none => simp [read]
    | some settings =>
      cases accepted : settings.accept with
      | error fault => simp [read, accepted]
      | ok given => simp [read, accepted]

/-- What a document gives is what is read from it. -/
theorem givenBy_iff (files : φ) (environment : Environment) (tunables : Tunables) :
    GivenBy files environment tunables ↔
      ∃ path, environment.tunablesFile = some path ∧ load files path = .ok tunables := by
  constructor
  · rintro ⟨named, readable, read, workable⟩
    exact ⟨_, named, (load_eq_ok_iff files _ _).mpr
      ⟨_, _, readable, read, (Settings.accept_eq_ok_iff _ _).mpr ⟨workable, rfl⟩⟩⟩
  · rintro ⟨path, named, loaded⟩
    obtain ⟨text, settings, readable, read, accepted⟩ := (load_eq_ok_iff files _ _).mp loaded
    obtain ⟨workable, rfl⟩ := (Settings.accept_eq_ok_iff _ _).mp accepted
    exact .document named readable read workable

/-- A document gives one set of tunables at most. -/
theorem GivenBy.unique {files : φ} {environment : Environment} {tunables other : Tunables}
    (given : GivenBy files environment tunables) (also : GivenBy files environment other) :
    other = tunables := by
  obtain ⟨path, named, loaded⟩ := (givenBy_iff ..).mp given
  obtain ⟨_, same, again⟩ := (givenBy_iff ..).mp also
  obtain rfl := Option.some.inj (named.symm.trans same)
  exact Except.ok.inj (again.symm.trans loaded)

/-- **What is in force**: what the document gives, or the standard tunables if it gives none. -/
theorem givenBy_or_standard (files : φ) (environment : Environment) :
    GivenBy files environment (resolve files environment) ∨
      (∀ tunables, ¬ GivenBy files environment tunables) ∧
        resolve files environment = .standard := by
  simp only [givenBy_iff]
  unfold resolve
  cases named : environment.tunablesFile with
  | none =>
    refine Or.inr ⟨?_, rfl⟩
    rintro tunables ⟨path, other, -⟩
    cases other
  | some path =>
    dsimp only
    cases loaded : load files path with
    | ok tunables => exact Or.inl ⟨path, rfl, loaded⟩
    | error error =>
      refine Or.inr ⟨?_, rfl⟩
      rintro tunables ⟨other, same, given⟩
      obtain rfl := Option.some.inj same
      rw [loaded] at given
      cases given

theorem accept_standard : Settings.accept {} = .ok .standard :=
  (Settings.acceptable_iff {}).mpr (by decide)

/-- **Settings come into force by what they say as plain numbers.** They are accepted exactly if
they are workable, and taken over as they are. The ticks of the two windows are as many short polls
as fit, as far as they can be counted. And in force is what the named document gives, or else the
standard tunables, which are acceptable. -/
theorem in_force_exact (settings : Settings) (files : φ) (environment : Environment) :
    (∀ tunables, settings.accept = .ok tunables ↔
        settings.Workable ∧ tunables = settings.tunables) ∧
      (∀ tunables, settings.accept = .ok tunables →
        tunables.Counts tunables.urgentGrace tunables.urgentTicks ∧
          tunables.Counts tunables.replyWait tunables.replyTicks) ∧
      (GivenBy files environment (resolve files environment) ∨
        (∀ tunables, ¬ GivenBy files environment tunables) ∧
          resolve files environment = .standard) ∧
      Settings.accept {} = .ok .standard := by
  refine ⟨settings.accept_eq_ok_iff, fun tunables accepted => ?_,
    givenBy_or_standard files environment, accept_standard⟩
  obtain ⟨workable, rfl⟩ := (settings.accept_eq_ok_iff tunables).mp accepted
  have positive : 0 < settings.tunables.shortPoll := workable.polls
  exact ⟨counts_ticksFor positive _, counts_ticksFor positive _⟩

end

/-- Settings at the limits: the longer poll is too long for a word of milliseconds, the one window
has just as many ticks as can be counted, and the other has more. -/
def utmost : Settings :=
  { shortPollMs := 1
    longPollSecs := 18446744073709551615
    urgentGraceMs := 4294967295
    replyWaitMs := 18446744073709551615 }

/-- The document of these settings. -/
def utmostDocument : String :=
  "short_poll_ms = 1\nlong_poll_secs = 18446744073709551615\n" ++
    "urgent_grace_ms = 4_294_967_295\nreply_wait_ms = 0xffffffffffffffff # for ever\n"

/-- Files with this document. -/
def utmostFiles : Tree :=
  Tree.empty.addFile (.ofString "/etc/dtexec.toml") (Utf8.bytes utmostDocument)

/-- They are accepted and come into force, and the ticks are what can be counted of them. -/
theorem in_force_utmost :
    let environment : Environment := { tunablesFile := some (.ofString "/etc/dtexec.toml") }
    utmost.accept = .ok utmost.tunables ∧
      utmost.tunables.urgentTicks.toNat * 1 ≤ 4294967295 ∧
      4294967295 < (utmost.tunables.urgentTicks.toNat + 1) * 1 ∧
      utmost.tunables.replyTicks.toNat = 4294967295 ∧
      GivenBy utmostFiles environment utmost.tunables ∧
      resolve utmostFiles environment = utmost.tunables := by
  intro environment
  obtain ⟨accepted, counted, force, -⟩ := in_force_exact utmost utmostFiles environment
  have workable : utmost.Workable := ⟨by decide, by decide, by decide, by decide⟩
  have taken := (accepted _).mpr ⟨workable, rfl⟩
  obtain ⟨urgent, reply⟩ := counted _ taken
  have readable : FileSystem.readText utmostFiles (.ofString "/etc/dtexec.toml") =
      .ok (.ofList utmostDocument.toList) :=
    Tree.readText_of_read (Tree.read_addFile ..)
  have given : GivenBy utmostFiles environment utmost.tunables :=
    .document rfl readable (by decide +kernel) workable
  refine ⟨taken, urgent.within (by decide), urgent.outlasted (by decide), reply.held (by decide),
    given, ?_⟩
  rcases force with loaded | ⟨nothing, -⟩
  · exact given.unique loaded
  · exact absurd given (nothing _)

end Tunables

end LaunchSupervisor
