/-!
**The phases of a shutdown,** in the order in which they may be entered, and the states of a command
as they are reported to the caller.

* `ofNumber_number`: a phase is known by its number.
* `Phase.le_advance`: advancing never goes back.
-/

namespace LaunchSupervisor

/-- A phase of the shutdown. -/
inductive Phase where
  /-- The command runs, or nothing has been done about its end. -/
  | starting
  /-- The caller has been told and has not answered. -/
  | replyWait
  /-- The caller has acknowledged. -/
  | replied
  /-- Nobody is listening; the temp files are to be removed. -/
  | panicCleanup
  /-- All is done but the wait at the end. -/
  | finalLinger
deriving DecidableEq

namespace Phase

/-- The number by which a phase is published. -/
def number : Phase → Nat
  | .starting => 1
  | .replyWait => 2
  | .replied => 3
  | .panicCleanup => 4
  | .finalLinger => 5

/-- The phase with a number. -/
def ofNumber : Nat → Option Phase
  | 1 => some .starting
  | 2 => some .replyWait
  | 3 => some .replied
  | 4 => some .panicCleanup
  | 5 => some .finalLinger
  | _ => none

/-- The name of a phase. -/
def name : Phase → String
  | .starting => "starting"
  | .replyWait => "reply-wait"
  | .replied => "replied"
  | .panicCleanup => "panic-cleanup"
  | .finalLinger => "final-linger"

instance : LE Phase := ⟨fun a b => a.number ≤ b.number⟩

instance (a b : Phase) : Decidable (a ≤ b) := inferInstanceAs (Decidable (a.number ≤ b.number))

/-- The later of two phases: a shutdown never goes back. -/
def advance (current next : Phase) : Phase :=
  if current ≤ next then next else current

theorem ofNumber_number (phase : Phase) : ofNumber phase.number = some phase := by
  cases phase <;> rfl

theorem le_advance (current next : Phase) : current ≤ current.advance next := by
  unfold advance
  split
  · assumption
  · exact Nat.le_refl _

theorem next_le_advance (current next : Phase) : next ≤ current.advance next := by
  unfold advance
  split
  · exact Nat.le_refl _
  · rename_i later
    exact Nat.le_of_lt (Nat.lt_of_not_le later)

end Phase

/-- A state of the command, as it is reported. -/
inductive ChildStatus where
  | unknown
  | pendingStart
  | aliveUnknown
  | alive
  | done
  | failed
  | canceled
deriving DecidableEq

/-- The number a state is reported by. -/
def ChildStatus.code : ChildStatus → Int32
  | .unknown => 1
  | .pendingStart => 2
  | .aliveUnknown => 4
  | .alive => 8
  | .done => 16
  | .failed => 32
  | .canceled => 64

end LaunchSupervisor
