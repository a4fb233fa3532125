import LaunchSupervisor.Stderr.Pipe

/-!
**Draining the error output.** A burst is collected into one block: after each read the reader waits
for more, until the pipe is quiet or closed or the block is as large as it may be.
-/

namespace LaunchSupervisor

/-- What one drain hands over. -/
structure Drained where
  data : List UInt8
  /-- Whether the pipe is used up. -/
  closed : Bool
deriving DecidableEq

namespace Pipe

/-- The most that is read at once. -/
def readSize : Nat := 4096

/-- Goes on with a drain that has collected `data`, in blocks of at most `ceiling` bytes. -/
def drainFrom (ceiling : Nat) (data : List UInt8) (pipe : Pipe) : Drained × Pipe :=
  match _read : pipe.read (min (ceiling - data.length) readSize) with
  | (.endOfFile, pipe) => (⟨data, true⟩, pipe)
  | (.bytes bytes, rest) =>
    if ceiling ≤ (data ++ bytes).length then (⟨data ++ bytes, false⟩, rest)
    else drainFrom ceiling (data ++ bytes) rest
  | (.nothingYet, rest) =>
    match _waited : rest.wait with
    | (true, next) => drainFrom ceiling data next
    | (false, next) => (⟨data, false⟩, next)
termination_by (pipe.volume, pipe.later.length)
decreasing_by
  · have counted := Pipe.volume_read _read
    exact Prod.Lex.left _ _ (by omega)
  · obtain ⟨same, empty, stillOpen⟩ := Pipe.read_nothingYet _read
    subst same
    have volume : next.volume = rest.volume := by
      rw [← Pipe.volume_wait rest, _waited]
    have shorter := Pipe.length_wait_lt empty stillOpen _waited
    rw [volume]
    exact Prod.Lex.right _ shorter

/-- Collects what is there and what follows without a pause, at most `ceiling` bytes. -/
def drain (pipe : Pipe) (ceiling : Nat) : Drained × Pipe :=
  pipe.drainFrom (max ceiling 1) []

end Pipe

end LaunchSupervisor
