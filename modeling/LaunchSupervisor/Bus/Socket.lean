import LaunchSupervisor.Bus.Connection
import LaunchSupervisor.Bus.Described
import LaunchSupervisor.Bus.LineBuffer
import LaunchSupervisor.Bus.Wire

/-!
**A connection over a socket.** The client asks to be let in and waits for the answer; after that it
never waits. A peer that has hung up is noticed once all complete lines have been taken.

* `volume_fill`: filling the buffer moves bytes and makes none.
* `volume_take_lt`: each frame taken leaves fewer bytes.
-/

namespace LaunchSupervisor.Bus

/-- A connection over a socket. -/
structure Socket where
  procid : String
  session : String
  /-- Bytes that were read and not yet taken. -/
  buffer : List UInt8
  /-- Whether the end of the stream was read. -/
  ended : Bool
  wire : Wire

namespace Socket

/-! ### Filling the buffer -/

/-- Why filling came to a halt. -/
inductive Halt where
  /-- Nothing more is there. -/
  | idle
  /-- The peer writes no more. -/
  | ended
  /-- The buffer holds more than any line may. -/
  | full
  | failed (reason : String)
deriving DecidableEq

/-- Reads what is there; the buffer is given back to front, with its length. -/
def fillFrom (reversed : List UInt8) (length : Nat) (incoming : List ReadOutcome) :
    Halt × List UInt8 × List ReadOutcome :=
  if longestLine < length then (.full, reversed, incoming)
  else
    match _read : ReadOutcome.next incoming with
    | (.bytes bytes, rest) => fillFrom (bytes.reverse ++ reversed) (length + bytes.length) rest
    | (.interrupted, rest) => fillFrom reversed length rest
    | (.wouldBlock, rest) => (.idle, reversed, rest)
    | (.endOfFile, rest) => (.ended, reversed, rest)
    | (.failed reason, rest) => (.failed reason, reversed, rest)
termination_by ReadOutcome.volume incoming
decreasing_by all_goals
  have less := @ReadOutcome.volume_next incoming (by rw [_read]; rfl)
  rw [_read] at less
  exact less

/-- Reads what is there without waiting. -/
def fill (buffer : List UInt8) (incoming : List ReadOutcome) :
    Halt × List UInt8 × List ReadOutcome :=
  let (halt, reversed, rest) := fillFrom buffer.reverse buffer.length incoming
  (halt, reversed.reverse, rest)

/-! ### Taking frames -/

/-- Why a line that is too long ends the connection. -/
def oversizedReason : String :=
  "frame exceeds " ++ toString longestLine ++ " bytes without a newline"

/-- What a popped line means for the one who takes it, if a line was popped. The report of a line
that is no frame breaks off where it would say what is wrong with the line. -/
def taken? : Popped → Option Taken
  | .frame read => some (.ok (some read))
  | .malformed => some (.error (.protocol "bad frame"))
  | .oversized => some (.error (.lost oversizedReason))
  | .incomplete => none

/-- Takes from a buffer that has just been filled. -/
def takeFilled (socket : Socket) : Taken × Socket :=
  let (popped, buffer) := pop socket.buffer
  match taken? popped with
  | some taken => (taken, { socket with buffer })
  | none =>
    if socket.ended then (.error (.lost "bus closed the connection"), { socket with buffer })
    else (.ok none, { socket with buffer })

/-- Reads what is there, and takes from it. -/
def refill (socket : Socket) : Taken × Socket :=
  if socket.ended then socket.takeFilled
  else
    let (halt, buffer, incoming) := fill socket.buffer socket.wire.incoming
    let filled : Socket := { socket with buffer, wire := { socket.wire with incoming } }
    match halt with
    | .idle => filled.takeFilled
    | .full => filled.takeFilled
    | .ended => takeFilled { filled with ended := true }
    | .failed reason => (.error (.lost reason), filled)

/-- Takes the next frame without waiting. -/
def take (socket : Socket) : Taken × Socket :=
  let (popped, buffer) := pop socket.buffer
  match taken? popped with
  | some taken => (taken, { socket with buffer })
  | none => refill { socket with buffer }

/-! ### Sending -/

/-- Why nothing can be sent to a peer that has gone. -/
def brokenPipe : Fault := .sendFailed "Broken pipe (os error 32)"

/-- Sends a frame. As a wire takes a line at once, the one way to fail is that the peer has gone; a
peer that stays but stops reading, by which the connection would be lost, is left out. -/
def send (socket : Socket) (frame : Frame) : Except Fault Unit × Socket :=
  match socket.wire.send frame.line with
  | some wire => (.ok (), { socket with wire })
  | none => (.error brokenPipe, socket)

/-- Quits the session, as far as the peer still listens, and shuts the stream down. -/
def close (socket : Socket) : Socket :=
  let (_, told) := socket.send (.quit socket.session)
  { told with wire := told.wire.shutDown }

/-! ### Being let in -/

/-- Waits for the answer to the request to be let in, with the bytes that have come already. -/
def awaitAnswer (buffer : List UInt8) (incoming : List ReadOutcome) :
    Except Fault (Frame × List UInt8 × List ReadOutcome) :=
  match pop buffer with
  | (.frame answer, buffer) => .ok (answer, buffer, incoming)
  | (.malformed, _) => .error (.protocol "bad frame")
  | (.oversized, _) => .error (.lost oversizedReason)
  | (.incomplete, buffer) =>
    match _read : ReadOutcome.nextWaiting incoming with
    | (.bytes bytes, rest) => awaitAnswer (buffer ++ bytes) rest
    | (.interrupted, rest) => awaitAnswer buffer rest
    | (.endOfFile, _) => .error (.notConnected "bus closed during handshake")
    | (.wouldBlock, _) => .error (.notConnected "Resource temporarily unavailable (os error 11)")
    | (.failed reason, _) => .error (.notConnected reason)
termination_by ReadOutcome.volume incoming
decreasing_by all_goals
  have less := @ReadOutcome.volume_nextWaiting incoming (by rw [_read]; rfl)
  rw [_read] at less
  exact less

/-- Asks to be let in, and waits for the answer. -/
def connect (wire : Wire) : Except Fault Socket × Wire :=
  match wire.send Frame.openRequest.line with
  | none => (.error brokenPipe, wire)
  | some wire =>
    match awaitAnswer [] wire.incoming with
    | .error fault => (.error fault, wire)
    | .ok (.opened procid session, buffer, incoming) =>
      (.ok { procid, session, buffer, ended := false, wire := { wire with incoming } }, wire)
    | .ok (other, _, _) =>
      (.error (.protocol ("expected opened frame, got " ++ other.described)), wire)

/-! ### How much is left to be taken -/

/-- The bytes that were read or will be. -/
def volume (socket : Socket) : Nat :=
  socket.buffer.length + ReadOutcome.volume socket.wire.incoming

theorem volume_fillFrom (reversed : List UInt8) (length : Nat) (incoming : List ReadOutcome) :
    (fillFrom reversed length incoming).2.1.length +
        ReadOutcome.volume (fillFrom reversed length incoming).2.2 ≤
      reversed.length + ReadOutcome.volume incoming := by
  fun_induction fillFrom reversed length incoming with
  | case1 => exact Nat.le_refl _
  | case2 reversed length incoming _ bytes rest read ih =>
    have moved := ReadOutcome.byteCount_next_le incoming
    rw [read] at moved
    simp only [List.length_append, List.length_reverse, ReadOutcome.byteCount] at ih moved
    omega
  | case3 reversed length incoming _ rest read ih =>
    have moved := ReadOutcome.byteCount_next_le incoming
    rw [read] at moved
    simp only [ReadOutcome.byteCount] at moved
    omega
  | case4 reversed length incoming _ rest read =>
    have moved := ReadOutcome.byteCount_next_le incoming
    rw [read] at moved
    simp only [ReadOutcome.byteCount] at moved ⊢
    omega
  | case5 reversed length incoming _ rest read =>
    have moved := ReadOutcome.byteCount_next_le incoming
    rw [read] at moved
    simp only [ReadOutcome.byteCount] at moved ⊢
    omega
  | case6 reversed length incoming _ reason rest read =>
    have moved := ReadOutcome.byteCount_next_le incoming
    rw [read] at moved
    simp only [ReadOutcome.byteCount] at moved ⊢
    omega

theorem volume_fill (buffer : List UInt8) (incoming : List ReadOutcome) :
    (fill buffer incoming).2.1.length + ReadOutcome.volume (fill buffer incoming).2.2 ≤
      buffer.length + ReadOutcome.volume incoming := by
  simpa [fill] using volume_fillFrom buffer.reverse buffer.length incoming

theorem isLine_of_taken?_goesOn {popped : Popped} {taken : Taken}
    (some_ : taken? popped = some taken) (more : taken.goesOn) : popped.isLine := by
  cases popped <;> simp [taken?] at some_ <;> subst some_ <;>
    simp_all [Popped.isLine, Taken.goesOn]

theorem volume_takeFilled_lt {socket : Socket} (more : socket.takeFilled.1.goesOn) :
    socket.takeFilled.2.volume < socket.volume := by
  unfold takeFilled at more ⊢
  dsimp only at more ⊢
  split at more
  · rename_i taken found
    have shorter := pop_length (isLine_of_taken?_goesOn found more)
    simpa [volume] using shorter
  · split at more <;> cases more

theorem volume_refill_lt {socket : Socket} (more : socket.refill.1.goesOn) :
    socket.refill.2.volume < socket.volume := by
  unfold refill at more ⊢
  by_cases ended : socket.ended
  · simp only [ended, if_true] at more ⊢
    exact volume_takeFilled_lt more
  · have moved := volume_fill socket.buffer socket.wire.incoming
    simp only [ended] at more ⊢
    generalize fill socket.buffer socket.wire.incoming = filled at more moved ⊢
    obtain ⟨halt, buffer, incoming⟩ := filled
    cases halt with
    | idle => exact Nat.lt_of_lt_of_le (volume_takeFilled_lt more) moved
    | full => exact Nat.lt_of_lt_of_le (volume_takeFilled_lt more) moved
    | ended => exact Nat.lt_of_lt_of_le (volume_takeFilled_lt more) moved
    | failed reason => cases more

theorem volume_take_lt {socket : Socket} (more : socket.take.1.goesOn) :
    socket.take.2.volume < socket.volume := by
  unfold take at more ⊢
  dsimp only at more ⊢
  split at more
  · rename_i taken found
    have shorter := pop_length (isLine_of_taken?_goesOn found more)
    simpa [volume] using shorter
  · refine Nat.lt_of_lt_of_le (volume_refill_lt more) ?_
    simpa [volume] using pop_length_le socket.buffer

theorem volume_send (socket : Socket) (frame : Frame) :
    (socket.send frame).2.volume = socket.volume := by
  unfold send
  split
  · rename_i wire accepted
    simp [volume, Wire.incoming_send accepted]
  · rfl

instance : Connection Socket where
  procid := procid
  session := session
  send := send
  take := take
  close := close
  backlog := volume
  backlog_send := volume_send
  backlog_take _ more := volume_take_lt more

end Socket

end LaunchSupervisor.Bus
