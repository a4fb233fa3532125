/-!
**The two directions of a stream to a peer.** What reads will bring is a history of outcomes; what
was written stands as the bytes that the peer has got.

* `volume_read`: a read that does not come to a halt uses up some of the history.
-/

namespace LaunchSupervisor.Bus

/-- What a read from a stream brings. -/
inductive ReadOutcome where
  | bytes (bytes : List UInt8)
  /-- Nothing is there yet. -/
  | wouldBlock
  /-- The read was cut short by a signal. -/
  | interrupted
  /-- The peer writes no more. -/
  | endOfFile
  | failed (reason : String)
deriving DecidableEq

namespace ReadOutcome

/-- The most that is read at once. -/
def chunkSize : Nat := 4096

/-- The next read: bytes come in chunks, and the end stays the end. -/
def next : List ReadOutcome → ReadOutcome × List ReadOutcome
  | [] => (.wouldBlock, [])
  | .bytes [] :: rest => next rest
  | .bytes (b :: more) :: rest =>
    match (b :: more).drop chunkSize with
    | [] => (.bytes (b :: more), rest)
    | left => (.bytes ((b :: more).take chunkSize), .bytes left :: rest)
  | .wouldBlock :: rest => (.wouldBlock, rest)
  | .interrupted :: rest => (.interrupted, rest)
  | .endOfFile :: rest => (.endOfFile, .endOfFile :: rest)
  | .failed reason :: rest => (.failed reason, rest)

/-- How much of a history an outcome makes up. -/
def size : ReadOutcome → Nat
  | .bytes data => data.length + 1
  | .wouldBlock => 1
  | .interrupted => 1
  | .endOfFile => 1
  | .failed _ => 1

/-- The size of a history. -/
def volume : List ReadOutcome → Nat
  | [] => 0
  | outcome :: rest => outcome.size + volume rest

/-- The bytes of an outcome. -/
def byteCount : ReadOutcome → Nat
  | .bytes data => data.length
  | .wouldBlock => 0
  | .interrupted => 0
  | .endOfFile => 0
  | .failed _ => 0

/-- The next read that brings something, however long that takes; a history without one is a wait
that is given up. -/
def nextWaiting : List ReadOutcome → ReadOutcome × List ReadOutcome
  | [] => (.failed "Resource temporarily unavailable (os error 11)", [])
  | .wouldBlock :: rest => nextWaiting rest
  | .interrupted :: rest => nextWaiting rest
  | .bytes [] :: rest => nextWaiting rest
  | history => next history

/-- A history with more bytes at its end; they join those that are waiting to be read. -/
def arrive (bytes : List UInt8) : List ReadOutcome → List ReadOutcome
  | [] => [.bytes bytes]
  | [.bytes waiting] => [.bytes (waiting ++ bytes)]
  | outcome :: rest => outcome :: arrive bytes rest

/-! ### Reading uses up the history -/

/-- Whether a reader may go on after an outcome. -/
def goesOn : ReadOutcome → Bool
  | .bytes _ => true
  | .interrupted => true
  | .wouldBlock => false
  | .endOfFile => false
  | .failed _ => false

theorem byteCount_next_le (history : List ReadOutcome) :
    (next history).1.byteCount + volume (next history).2 ≤ volume history := by
  fun_induction next history with
  | case1 => exact Nat.le_refl _
  | case2 rest ih =>
    simp only [volume, size] at ih ⊢
    omega
  | case3 b more rest whole => simp [volume, size, byteCount]
  | case4 b more rest cut =>
    simp only [volume, size, byteCount, List.length_take,
      List.length_drop, List.length_cons]
    omega
  | case5 rest => simp [volume, size, byteCount]
  | case6 rest => simp [volume, size, byteCount]
  | case7 rest => simp [volume, size, byteCount]
  | case8 reason rest => simp [volume, size, byteCount]

theorem volume_next {history : List ReadOutcome} (more : (next history).1.goesOn) :
    volume (next history).2 < volume history := by
  fun_induction next history with
  | case1 => cases more
  | case2 rest ih =>
    have less := ih more
    simp only [volume, size] at less ⊢
    omega
  | case3 b more_ rest whole => simp [volume, size]
  | case4 b more_ rest cut =>
    have left := List.length_pos_iff.mpr cut
    simp only [chunkSize, List.length_drop, List.length_cons] at left
    simp only [chunkSize, volume, size, List.length_drop,
      List.length_cons]
    omega
  | case5 rest => cases more
  | case6 rest => simp [volume, size]
  | case7 rest => cases more
  | case8 reason rest => cases more

theorem volume_nextWaiting {history : List ReadOutcome} (more : (nextWaiting history).1.goesOn) :
    volume (nextWaiting history).2 < volume history := by
  fun_induction nextWaiting history with
  | case1 => cases more
  | case2 rest ih => exact Nat.lt_of_lt_of_le (ih more) (by simp [volume])
  | case3 rest ih => exact Nat.lt_of_lt_of_le (ih more) (by simp [volume])
  | case4 rest ih => exact Nat.lt_of_lt_of_le (ih more) (by simp [volume])
  | case5 history => exact volume_next more

end ReadOutcome

/-- A stream to a peer. -/
structure Wire where
  /-- What reads will bring. -/
  incoming : List ReadOutcome
  /-- Whether the peer has gone. -/
  gone : Bool := false
  /-- Whether the stream was shut down from this side. -/
  shut : Bool := false
  /-- What the peer has got. -/
  delivered : List UInt8 := []

namespace Wire

/-- Writes to the peer, unless nobody reads there any more. What is written is taken at once and as
a whole: that the peer may make room bit by bit, or so late that the sender gives up, is left
out. -/
def send (wire : Wire) (bytes : List UInt8) : Option Wire :=
  if wire.gone ∨ wire.shut then none
  else some { wire with delivered := wire.delivered ++ bytes }

/-- Shuts both directions down; what has arrived can still be read. -/
def shutDown (wire : Wire) : Wire :=
  { wire with shut := true, incoming := wire.incoming ++ [.endOfFile] }

/-- More arrives from the peer. -/
def arrive (wire : Wire) (bytes : List UInt8) : Wire :=
  if wire.shut then wire else { wire with incoming := ReadOutcome.arrive bytes wire.incoming }

/-- The peer writes no more. -/
def hangUp (wire : Wire) : Wire :=
  { wire with incoming := wire.incoming ++ [.endOfFile] }

/-- The peer goes away. -/
def leave (wire : Wire) : Wire :=
  { wire.hangUp with gone := true }

theorem delivered_send {wire sent : Wire} {bytes : List UInt8}
    (accepted : wire.send bytes = some sent) : sent.delivered = wire.delivered ++ bytes := by
  unfold send at accepted
  split at accepted
  · cases accepted
  · cases accepted
    rfl

theorem incoming_send {wire sent : Wire} {bytes : List UInt8}
    (accepted : wire.send bytes = some sent) : sent.incoming = wire.incoming := by
  unfold send at accepted
  split at accepted
  · cases accepted
  · cases accepted
    rfl

end Wire

end LaunchSupervisor.Bus
