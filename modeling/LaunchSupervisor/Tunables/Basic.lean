/-!
**Tunables.** The times and sizes by which the supervisor works, and the settings from which they
are made. Times are in milliseconds.

* `Settings.acceptable_iff`: which settings make tunables, without regard to word sizes.
* `ticksFor_le`, `lt_ticksFor_succ`: how many short polls fit into a window.
-/

namespace LaunchSupervisor

/-- The times and sizes in force. -/
structure Tunables where
  /-- How long a poll lasts while something is about to happen. -/
  shortPoll : Nat
  /-- How long a poll lasts otherwise. -/
  longPoll : Nat
  /-- How long the command may ignore an urgent signal. -/
  urgentGrace : Nat
  /-- How long the caller may take to answer the report. -/
  replyWait : Nat
  /-- How long after the launch the icon cache is told about the command's children. -/
  noticeDelay : Nat
  /-- The most error output that is taken at a time. -/
  flushCeiling : Nat
  /-- How often a launch is tried. -/
  forkAttempts : UInt32
  /-- The pause between two tries. -/
  forkBackoff : Nat
deriving DecidableEq

namespace Tunables

/-- The short polls that fit into a window, as many as can be counted. -/
def ticksFor (tunables : Tunables) (window : Nat) : UInt32 :=
  if window / max tunables.shortPoll 1 < UInt32.size then
    UInt32.ofNat (window / max tunables.shortPoll 1)
  else 4294967295

/-- The short polls after which an urgent signal must have been heeded. -/
def urgentTicks (tunables : Tunables) : UInt32 :=
  tunables.ticksFor tunables.urgentGrace

/-- The short polls after which the caller must have answered. -/
def replyTicks (tunables : Tunables) : UInt32 :=
  tunables.ticksFor tunables.replyWait

/-! ### How many polls fit -/

theorem ticksFor_toNat {tunables : Tunables} {window : Nat} (positive : 0 < tunables.shortPoll)
    (fits : window / tunables.shortPoll < UInt32.size) :
    (tunables.ticksFor window).toNat = window / tunables.shortPoll := by
  have same : max tunables.shortPoll 1 = tunables.shortPoll := by omega
  rw [ticksFor, same, if_pos fits]
  simpa using Nat.mod_eq_of_lt fits

theorem ticksFor_le {tunables : Tunables} {window : Nat} (positive : 0 < tunables.shortPoll)
    (fits : window / tunables.shortPoll < UInt32.size) :
    (tunables.ticksFor window).toNat * tunables.shortPoll ≤ window := by
  rw [ticksFor_toNat positive fits]
  exact Nat.div_mul_le_self window tunables.shortPoll

theorem lt_ticksFor_succ {tunables : Tunables} {window : Nat} (positive : 0 < tunables.shortPoll)
    (fits : window / tunables.shortPoll < UInt32.size) :
    window < ((tunables.ticksFor window).toNat + 1) * tunables.shortPoll := by
  rw [ticksFor_toNat positive fits, Nat.add_mul, Nat.one_mul]
  exact Nat.lt_div_mul_add positive

end Tunables

/-! ### Settings -/

/-- Settings, each with a standard value. -/
structure Settings where
  shortPollMs : UInt64 := 20
  longPollSecs : UInt64 := 86400
  urgentGraceMs : UInt64 := 5000
  replyWaitMs : UInt64 := 300000
  noticeDelayMs : UInt64 := 5000
  flushCeiling : UInt64 := 65535
  forkAttempts : UInt32 := 10
  forkBackoffMs : UInt64 := 2000
deriving DecidableEq

namespace Settings

/-- Why settings are not acceptable. -/
inductive Fault where
  | noShortPoll
  | noForkAttempts
  | longPollTooShort (seconds shortMs : UInt64)
  | noFlushCeiling
deriving DecidableEq

/-- How a fault is reported. -/
def Fault.message : Fault → String
  | .noShortPoll => "short_poll_ms must be >= 1 (got 0)"
  | .noForkAttempts => "fork_attempts must be >= 1 (got 0)"
  | .longPollTooShort seconds shortMs =>
    "long_poll_secs (" ++ toString seconds.toNat ++ "s) must not be shorter than short_poll_ms (" ++
      toString shortMs.toNat ++ "ms)"
  | .noFlushCeiling => "stderr_flush_ceiling must be >= 1 (got 0)"

/-- Seconds in milliseconds, held at the greatest 64-bit number. -/
def milliseconds (seconds : UInt64) : UInt64 :=
  if seconds.toNat * 1000 < UInt64.size then seconds * 1000 else 18446744073709551615

/-- The tunables of settings, acceptable or not. -/
def tunables (settings : Settings) : Tunables :=
  { shortPoll := settings.shortPollMs.toNat
    longPoll := settings.longPollSecs.toNat * 1000
    urgentGrace := settings.urgentGraceMs.toNat
    replyWait := settings.replyWaitMs.toNat
    noticeDelay := settings.noticeDelayMs.toNat
    flushCeiling := settings.flushCeiling.toNat
    forkAttempts := settings.forkAttempts
    forkBackoff := settings.forkBackoffMs.toNat }

/-- The tunables of acceptable settings. -/
def accept (settings : Settings) : Except Fault Tunables :=
  if settings.shortPollMs = 0 then .error .noShortPoll
  else if settings.forkAttempts = 0 then .error .noForkAttempts
  else if milliseconds settings.longPollSecs < settings.shortPollMs then
    .error (.longPollTooShort settings.longPollSecs settings.shortPollMs)
  else if settings.flushCeiling = 0 then .error .noFlushCeiling
  else .ok settings.tunables

/-! ### Which settings are acceptable -/

theorem milliseconds_toNat (seconds : UInt64) :
    (milliseconds seconds).toNat = min (seconds.toNat * 1000) 18446744073709551615 := by
  unfold milliseconds
  split
  · rename_i fits
    rw [UInt64.toNat_mul]
    simp only [UInt64.size, UInt64.reduceToNat] at fits ⊢
    omega
  · rename_i large
    simp only [UInt64.size, UInt64.reduceToNat] at large ⊢
    omega

/-- The product never overflows in a way that matters. -/
theorem milliseconds_lt_iff (seconds other : UInt64) :
    milliseconds seconds < other ↔ seconds.toNat * 1000 < other.toNat := by
  rw [UInt64.lt_iff_toNat_lt, milliseconds_toNat]
  have bound := other.toNat_lt
  omega

theorem acceptable_iff (settings : Settings) :
    settings.accept = .ok settings.tunables ↔
      1 ≤ settings.shortPollMs.toNat ∧ 1 ≤ settings.forkAttempts.toNat ∧
        settings.shortPollMs.toNat ≤ settings.longPollSecs.toNat * 1000 ∧
        1 ≤ settings.flushCeiling.toNat := by
  unfold accept
  simp only [milliseconds_lt_iff, ← UInt64.toNat_inj, ← UInt32.toNat_inj, UInt64.reduceToNat,
    UInt32.reduceToNat]
  split
  · simp; omega
  · split
    · simp; omega
    · split
      · simp; omega
      · split
        · simp; omega
        · simp; omega

end Settings

/-- The tunables when nothing else is said. -/
def Tunables.standard : Tunables :=
  Settings.tunables {}

end LaunchSupervisor
