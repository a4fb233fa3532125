/-!
**A pipe from the command.** Bytes that the command has written wait in a buffer until they are
read. What it will yet do is a history of events, which happen one by one while the reader waits.

* `volume_read`: a read that brings bytes leaves less to be read.
* `read_eq_endOfFile_iff`: the end is read only from a closed pipe, or into no room at all.
-/

namespace LaunchSupervisor

/-- Something that happens at the writing end of a pipe. -/
inductive PipeEvent where
  | wrote (bytes : List UInt8)
  /-- Nothing, for longer than the reader waits. -/
  | quiet
  | closed
deriving DecidableEq

namespace PipeEvent

/-- The bytes of an event. -/
def size : PipeEvent → Nat
  | .wrote bytes => bytes.length
  | .quiet => 0
  | .closed => 0

/-- The bytes of a history. -/
def volume : List PipeEvent → Nat
  | [] => 0
  | event :: rest => event.size + volume rest

end PipeEvent

/-- What a read without waiting brings. -/
inductive PipeRead where
  | bytes (bytes : List UInt8)
  | endOfFile
  | nothingYet
deriving DecidableEq

/-- A pipe as its reader finds it. -/
structure Pipe where
  /-- The bytes that can be read. -/
  buffered : List UInt8
  /-- Whether the writing end is closed. -/
  closed : Bool
  /-- What has yet to happen. -/
  later : List PipeEvent
deriving DecidableEq

namespace Pipe

/-- A pipe to which nothing has happened. -/
def ofHistory (later : List PipeEvent) : Pipe := ⟨[], false, later⟩

/-- Reads at most so many bytes. -/
def read (pipe : Pipe) (room : Nat) : PipeRead × Pipe :=
  if room = 0 then (.endOfFile, pipe)
  else if pipe.buffered = [] then
    if pipe.closed then (.endOfFile, pipe) else (.nothingYet, pipe)
  else
    (.bytes (pipe.buffered.take room), { pipe with buffered := pipe.buffered.drop room })

/-- The pipe after an event. -/
def after (pipe : Pipe) : PipeEvent → Pipe
  | .wrote bytes => { pipe with buffered := pipe.buffered ++ bytes }
  | .quiet => pipe
  | .closed => { pipe with closed := true }

/-- Whether a read would bring something. -/
def readable (pipe : Pipe) : Bool :=
  pipe.closed || !pipe.buffered.isEmpty

/-- Waits until the pipe can be read, or for as long as a reader waits; tells which it was. -/
def waitFrom (pipe : Pipe) : List PipeEvent → Bool × Pipe
  | [] => (pipe.readable, { pipe with later := [] })
  | event :: rest =>
    if pipe.readable then (true, { pipe with later := event :: rest })
    else if event = .quiet then (false, { pipe with later := rest })
    else (pipe.after event).waitFrom rest

/-- Waits on what has yet to happen. -/
def wait (pipe : Pipe) : Bool × Pipe :=
  pipe.waitFrom pipe.later

/-- The bytes that will have come through the pipe. -/
def volume (pipe : Pipe) : Nat :=
  pipe.buffered.length + PipeEvent.volume pipe.later

/-! ### How the operations change a pipe -/

theorem read_eq_endOfFile_iff (pipe : Pipe) (room : Nat) :
    (pipe.read room).1 = .endOfFile ↔ room = 0 ∨ (pipe.buffered = [] ∧ pipe.closed) := by
  unfold read
  split
  · simp_all
  · split
    · split <;> simp_all
    · simp_all

theorem read_endOfFile {pipe rest : Pipe} {room : Nat}
    (read : pipe.read room = (.endOfFile, rest)) : rest = pipe := by
  unfold Pipe.read at read
  split at read
  · cases read
    rfl
  · split at read
    · split at read <;> cases read
      rfl
    · cases read

theorem read_nothingYet {pipe rest : Pipe} {room : Nat}
    (read : pipe.read room = (.nothingYet, rest)) :
    rest = pipe ∧ pipe.buffered = [] ∧ pipe.closed = false := by
  unfold Pipe.read at read
  split at read
  · cases read
  · split at read
    · split at read
      · cases read
      · rename_i empty stillOpen
        cases read
        exact ⟨rfl, empty, by simpa using stillOpen⟩
    · cases read

theorem volume_read {pipe rest : Pipe} {room : Nat} {bytes : List UInt8}
    (read : pipe.read room = (.bytes bytes, rest)) :
    bytes.length + rest.volume = pipe.volume ∧ 0 < bytes.length ∧ bytes.length ≤ room := by
  unfold Pipe.read at read
  split at read
  · cases read
  · rename_i positive
    split at read
    · split at read <;> cases read
    · rename_i full
      cases read
      have nonempty := List.length_pos_iff.mpr full
      simp only [volume, List.length_take, List.length_drop]
      omega

theorem waitFrom_volume (pipe : Pipe) (events : List PipeEvent) :
    (pipe.waitFrom events).2.volume = ({ pipe with later := events } : Pipe).volume := by
  induction events generalizing pipe with
  | nil => rfl
  | cons event rest ih =>
    simp only [waitFrom]
    split
    · rfl
    · split
      · rename_i quiet
        simp [volume, quiet, PipeEvent.volume, PipeEvent.size]
      · rw [ih]
        cases event <;> simp [volume, after, PipeEvent.volume, PipeEvent.size]
        omega

theorem waitFrom_length (pipe : Pipe) (events : List PipeEvent) :
    (pipe.waitFrom events).2.later.length ≤ events.length := by
  induction events generalizing pipe with
  | nil => simp [waitFrom]
  | cons event rest ih =>
    simp only [waitFrom]
    split
    · simp
    · split
      · simp
      · exact Nat.le_succ_of_le (ih _)

/-- A wait on a pipe that cannot be read uses up an event. -/
theorem length_wait_lt {pipe next : Pipe} (empty : pipe.buffered = [])
    (stillOpen : pipe.closed = false) (ready : pipe.wait = (true, next)) :
    next.later.length < pipe.later.length := by
  have blocked : pipe.readable = false := by simp [readable, empty, stillOpen]
  unfold wait at ready
  cases events : pipe.later with
  | nil =>
    simp [events, waitFrom, blocked] at ready
  | cons event rest =>
    rw [events] at ready
    simp only [waitFrom, blocked, Bool.false_eq_true, if_false] at ready
    split at ready
    · cases ready
    · have := waitFrom_length (pipe.after event) rest
      rw [ready] at this
      simpa using Nat.lt_succ_of_le this

theorem volume_wait (pipe : Pipe) : pipe.wait.2.volume = pipe.volume :=
  waitFrom_volume pipe pipe.later

end Pipe

end LaunchSupervisor
