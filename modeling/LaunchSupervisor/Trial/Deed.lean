import LaunchSupervisor.Path
import LaunchSupervisor.Shutdown.Signals

/-!
**What a command does, seen from outside.** A command writes, sends signals to its supervisor and
comes to an end; each deed has its time, and deeds are listed in the order of their times.

* `sorted_schedule`: a schedule is in the order of times, whoever did what.
-/

namespace LaunchSupervisor.Trial

/-- A signal that the supervisor has a handler for. -/
inductive Signal where
  | hangUp
  | interrupt
  | user1
  | user2
  | terminate
  /-- A child has changed its state. -/
  | child
deriving DecidableEq

namespace Signal

/-- The name of a signal. -/
def name : Signal → String
  | .hangUp => "HUP"
  | .interrupt => "INT"
  | .user1 => "USR1"
  | .user2 => "USR2"
  | .terminate => "TERM"
  | .child => "CHLD"

/-- The number of a signal. -/
def number : Signal → Nat
  | .hangUp => 1
  | .interrupt => 2
  | .user1 => 10
  | .user2 => 12
  | .terminate => 15
  | .child => 17

/-- Every signal that the supervisor has a handler for. -/
def all : List Signal := [.hangUp, .interrupt, .user1, .user2, .terminate, .child]

/-- The handler's access to the flags; `finished` tells whether the child has ended and was waited
for. -/
def call (finished : Bool) : Signal → SignalCall
  | .hangUp => .ignorable
  | .interrupt => .panic
  | .user1 => .ignorable
  | .user2 => .ignorable
  | .terminate => .urgent
  | .child => .graceful (if finished then .noChildren else .stillRunning)

end Signal

/-- Something that a command does. -/
inductive Deed where
  /-- It writes to its output. -/
  | output (bytes : List UInt8)
  /-- It writes to its error output. -/
  | complaint (bytes : List UInt8)
  /-- It makes a file, or empties one. -/
  | make (path : Path)
  /-- It adds to a file. -/
  | extend (path : Path) (bytes : List UInt8)
  /-- It sends the supervisor a signal. -/
  | signal (signal : Signal)
  /-- A process of it, perhaps a new one, turns into a program. -/
  | become (process : Nat) (program : List UInt8)
  /-- A process of it is over. -/
  | vanish (process : Nat)
  /-- The last of its processes that could write to its error output is over. -/
  | silence
  /-- The process that was launched is over. -/
  | finish
deriving DecidableEq

/-- A deed and when it is done, in milliseconds. -/
structure Timed where
  time : Nat
  deed : Deed
deriving DecidableEq

/-- Deeds in the order of their times; those of one time stay in order. -/
def schedule (deeds : List Timed) : List Timed :=
  deeds.mergeSort fun a b => decide (a.time ≤ b.time)

theorem sorted_schedule (deeds : List Timed) :
    (schedule deeds).Pairwise fun a b => decide (a.time ≤ b.time) := by
  refine List.pairwise_mergeSort (fun a b c first second => ?_) (fun a b => ?_) deeds
  · simp only [decide_eq_true_eq] at *
    omega
  · simp only [Bool.or_eq_true, decide_eq_true_eq]
    omega

theorem mem_schedule {deeds : List Timed} {timed : Timed} :
    timed ∈ schedule deeds ↔ timed ∈ deeds := by
  simp [schedule]

end LaunchSupervisor.Trial
