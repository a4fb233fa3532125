import LaunchSupervisor.Bus.Frame

/-!
**Connections to the bus.** A connection sends a frame or says why it cannot, and takes the next
frame without waiting. The number of frames it can take is bounded, so taking them all comes to an
end.

* `Scripted`: a connection that answers from a list and keeps a record of what was asked of it.
-/

namespace LaunchSupervisor.Bus

/-- What taking a frame brings: a frame, nothing, or a fault. -/
abbrev Taken := Except Fault (Option Frame)

/-- Whether more can be taken after this: a frame was there, or a line that is none. -/
def Taken.goesOn : Taken → Bool
  | .ok (some _) => true
  | .ok none => false
  | .error (.protocol _) => true
  | .error _ => false

/-- Connections with states of type `κ`. -/
class Connection (κ : Type) where
  /-- The client's own process id on the bus. -/
  procid : κ → String
  /-- The session the client belongs to. -/
  session : κ → String
  send : κ → Frame → Except Fault Unit × κ
  take : κ → Taken × κ
  /-- Quits the session and closes the connection. -/
  close : κ → κ
  /-- A bound on what can be taken before nothing is left. -/
  backlog : κ → Nat
  /-- Sending leaves what can be taken as it is. -/
  backlog_send (connection : κ) (frame : Frame) :
    backlog (send connection frame).2 = backlog connection
  /-- Taking something leaves less to be taken. -/
  backlog_take (connection : κ) (more : (take connection).1.goesOn) :
    backlog (take connection).2 < backlog connection

/-! ### A connection from a script -/

/-- Something asked of a connection. -/
inductive Call where
  | send (frame : Frame) (accepted : Bool)
  | take
  | close
deriving DecidableEq

/-- A connection that answers from lists. -/
structure Scripted where
  procid : String := "dtexec.1"
  session : String := "s0"
  /-- What is there to be taken. -/
  inbox : List Taken := []
  /-- Why the connection refuses a send after so many earlier ones, if it does. -/
  refusal : Nat → Option Fault := fun _ => none
  /-- How many sends were asked for. -/
  sends : Nat := 0
  /-- All that was asked, in order. -/
  calls : List Call := []

namespace Scripted

def send (connection : Scripted) (frame : Frame) : Except Fault Unit × Scripted :=
  let record (accepted : Bool) : Scripted :=
    { connection with
      sends := connection.sends + 1
      calls := connection.calls ++ [.send frame accepted] }
  match connection.refusal connection.sends with
  | none => (.ok (), record true)
  | some fault => (.error fault, record false)

def take (connection : Scripted) : Taken × Scripted :=
  let calls := connection.calls ++ [.take]
  match connection.inbox with
  | [] => (.ok none, { connection with calls })
  | taken :: rest => (taken, { connection with inbox := rest, calls })

def close (connection : Scripted) : Scripted :=
  { connection with calls := connection.calls ++ [.close] }

/-- The connection once more has arrived. -/
def arrive (connection : Scripted) (items : List Taken) : Scripted :=
  { connection with inbox := connection.inbox ++ items }

@[simp] theorem inbox_send (connection : Scripted) (frame : Frame) :
    (connection.send frame).2.inbox = connection.inbox := by
  unfold send
  split <;> rfl

theorem inbox_take (connection : Scripted) :
    connection.take.2.inbox = connection.inbox.tail := by
  unfold take
  split <;> simp [*]

theorem inbox_ne_nil_of_goesOn {connection : Scripted} (more : connection.take.1.goesOn) :
    connection.inbox ≠ [] := by
  intro empty
  simp [take, empty, Taken.goesOn] at more

instance : Connection Scripted where
  procid := procid
  session := session
  send := send
  take := take
  close := close
  backlog connection := connection.inbox.length
  backlog_send connection frame := by simp
  backlog_take connection more := by
    have nonempty := List.length_pos_iff.mpr (inbox_ne_nil_of_goesOn more)
    rw [inbox_take, List.length_tail]
    omega

end Scripted

end LaunchSupervisor.Bus
