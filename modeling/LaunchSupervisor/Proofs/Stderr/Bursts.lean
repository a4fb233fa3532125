import LaunchSupervisor.Proofs.Stderr.Capture
import LaunchSupervisor.Reactor.Run

/-!
**What a drain reads and waits for.** A drain reads again and again, and waits where nothing is
there to be read, while the history of the pipe goes on.

* `Reads.short`: there is room for each read, so that a pipe is used up only when it is at its end.
* `waited_wait`: what a wait does to a pipe, and how it ends.
* `block_eq`: a block depends on what comes without a pause, not on when in between it comes.
-/

namespace LaunchSupervisor.Pipe

open PipeEvent (written)
open Reactor (happen)

/-! ### The reads of a drain -/

/-- **The reads of a drain**: one that has collected `data` from a pipe comes to read, sooner or
later, from the pipe `found` with `collected` in hand. -/
inductive Reads (ceiling : Nat) : List UInt8 → Pipe → List UInt8 → Pipe → Prop where
  | here {data : List UInt8} {pipe : Pipe} : Reads ceiling data pipe data pipe
  | more {data bytes collected : List UInt8} {pipe rest found : Pipe}
    (read : pipe.read (min (ceiling - data.length) readSize) = (.bytes bytes, rest))
    (fits : (data ++ bytes).length < ceiling)
    (later : Reads ceiling (data ++ bytes) rest collected found) :
    Reads ceiling data pipe collected found
  | woken {data collected : List UInt8} {pipe rest next found : Pipe}
    (read : pipe.read (min (ceiling - data.length) readSize) = (.nothingYet, rest))
    (waited : rest.wait = (true, next)) (later : Reads ceiling data next collected found) :
    Reads ceiling data pipe collected found

section

variable {ceiling : Nat} {data collected : List UInt8} {pipe found : Pipe}

/-- A drain goes on from each of its reads. -/
theorem Reads.drainFrom_eq (reads : Reads ceiling data pipe collected found) :
    drainFrom ceiling data pipe = drainFrom ceiling collected found := by
  induction reads with
  | here => rfl
  | more read fits later ih =>
    rw [← ih, drainFrom]
    split
    · rename_i ended
      rw [read] at ended
      cases ended
    · rename_i brought
      rw [read] at brought
      cases brought
      rw [if_neg (Nat.not_le_of_lt fits)]
    · rename_i nothing
      rw [read] at nothing
      cases nothing
  | woken read waited later ih =>
    rw [← ih, drainFrom]
    split
    · rename_i ended
      rw [read] at ended
      cases ended
    · rename_i brought
      rw [read] at brought
      cases brought
    · rename_i nothing
      rw [read] at nothing
      cases nothing
      split
      · rename_i woken
        rw [waited] at woken
        cases woken
        rfl
      · rename_i silent
        rw [waited] at silent
        cases silent

/-- **There is room for each read.** -/
theorem Reads.short (reads : Reads ceiling data pipe collected found)
    (short : data.length < ceiling) : collected.length < ceiling := by
  induction reads with
  | here => exact short
  | more read fits later ih => exact ih fits
  | woken read waited later ih => exact ih short

theorem endOfFile_of_room {room : Nat} (positive : room ≠ 0)
    (ended : (found.read room).1 = .endOfFile) : found.buffered = [] ∧ found.closed :=
  ((read_eq_endOfFile_iff found room).mp ended).resolve_left positive

/-- A pipe is used up only by a read that finds its end. -/
theorem exists_reads_of_closed (closed : (drainFrom ceiling data pipe).1.closed) :
    ∃ collected, Reads ceiling data pipe collected (drainFrom ceiling data pipe).2 ∧
      ((drainFrom ceiling data pipe).2.read (min (ceiling - collected.length) readSize)).1 =
        .endOfFile := by
  fun_induction drainFrom ceiling data pipe with
  | case1 data pipe rest read =>
    obtain rfl := Pipe.read_endOfFile read
    exact ⟨data, .here, by rw [read]⟩
  | case2 data pipe bytes rest read _ => cases closed
  | case3 data pipe bytes rest read fits ih =>
    obtain ⟨collected, reads, ended⟩ := ih closed
    exact ⟨collected, .more read (Nat.lt_of_not_le fits) reads, ended⟩
  | case4 data pipe rest read next waited ih =>
    obtain ⟨collected, reads, ended⟩ := ih closed
    exact ⟨collected, .woken read waited reads, ended⟩
  | case5 data pipe rest read next waited => cases closed

/-- **A pipe is used up only when it is closed and empty.** -/
theorem used_up (short : data.length < ceiling) (closed : (drainFrom ceiling data pipe).1.closed) :
    (drainFrom ceiling data pipe).2.buffered = [] ∧ (drainFrom ceiling data pipe).2.closed := by
  obtain ⟨collected, reads, ended⟩ := exists_reads_of_closed closed
  exact endOfFile_of_room (room_pos (reads.short short)) ended

end

/-! ### Waiting -/

/-- Some of a pipe's history happens, and none of it is a pause. -/
inductive Flows : Pipe → Pipe → Prop where
  | refl {pipe : Pipe} : Flows pipe pipe
  | happen {pipe later : Pipe} {event : PipeEvent} {rest : List PipeEvent}
    (next : pipe.later = event :: rest) (busy : event ≠ .quiet)
    (flows : Flows (happen pipe) later) : Flows pipe later

theorem waitFrom_later (pipe : Pipe) (later events : List PipeEvent) :
    ({ pipe with later } : Pipe).waitFrom events = pipe.waitFrom events := by
  induction events generalizing pipe later with
  | nil => rfl
  | cons event rest ih =>
    have same : ({ pipe with later } : Pipe).after event =
        { pipe.after event with later := later } := by
      cases event <;> rfl
    unfold waitFrom
    rw [same, ih]
    rfl

theorem happen_cons {pipe : Pipe} {event : PipeEvent} {rest : List PipeEvent}
    (next : pipe.later = event :: rest) :
    happen pipe = { pipe.after event with later := rest } := by
  unfold happen
  rw [next, after_later]

/-- **What a wait does**: the history goes on until the pipe can be read, or until there is a pause,
or until nothing is left of it. -/
inductive Waited (pipe : Pipe) : Bool × Pipe → Prop where
  | ready {next : Pipe} (flows : Flows pipe next) (readable : next.readable) :
    Waited pipe (true, next)
  | paused {last : Pipe} {rest : List PipeEvent} (flows : Flows pipe last)
    (blocked : last.readable = false) (pause : last.later = .quiet :: rest) :
    Waited pipe (false, happen last)
  | forsaken {last : Pipe} (flows : Flows pipe last) (blocked : last.readable = false)
    (nothing : last.later = []) : Waited pipe (false, last)

theorem Waited.of_happen {pipe : Pipe} {event : PipeEvent} {rest : List PipeEvent}
    {result : Bool × Pipe} (next : pipe.later = event :: rest) (busy : event ≠ .quiet)
    (waited : Waited (Reactor.happen pipe) result) : Waited pipe result := by
  cases waited with
  | ready flows readable => exact .ready (.happen next busy flows) readable
  | paused flows blocked pause => exact .paused (.happen next busy flows) blocked pause
  | forsaken flows blocked nothing => exact .forsaken (.happen next busy flows) blocked nothing

theorem waited_wait (pipe : Pipe) : Waited pipe pipe.wait := by
  unfold wait
  generalize happens : pipe.later = events
  induction events generalizing pipe with
  | nil =>
    have same : ({ pipe with later := [] } : Pipe) = pipe := by rw [← happens]
    unfold waitFrom
    rw [same]
    cases readable : pipe.readable with
    | true => exact .ready .refl readable
    | false => exact .forsaken .refl readable happens
  | cons event rest ih =>
    have same : ({ pipe with later := event :: rest } : Pipe) = pipe := by rw [← happens]
    have onward := happen_cons happens
    unfold waitFrom
    split
    · rename_i readable
      rw [same]
      exact .ready .refl readable
    · rename_i blocked
      rw [Bool.not_eq_true] at blocked
      split
      · rename_i quiet
        subst quiet
        have paused : happen pipe = { pipe with later := rest } := onward
        rw [← paused]
        exact .paused .refl blocked happens
      · rename_i busy
        have later := ih (happen pipe) (by rw [onward])
        rw [onward, waitFrom_later, ← onward] at later
        exact later.of_happen happens busy

theorem eq_of_blocked {pipe : Pipe} (blocked : pipe.readable = false) :
    pipe.buffered = [] ∧ pipe.closed = false := by
  simpa [readable, and_comm] using blocked

/-! ### What comes without a pause -/

/-- What happens to a pipe before the next pause. -/
def soon (pipe : Pipe) : List PipeEvent :=
  pipe.later.takeWhile (· != .quiet)

/-- The bytes that come without a pause. -/
def burst (pipe : Pipe) : List UInt8 :=
  pipe.buffered ++ written pipe.soon

/-- Whether the pipe is closed without a pause before. -/
def endsSoon (pipe : Pipe) : Bool :=
  pipe.closed || pipe.soon.contains .closed

theorem soon_happen {pipe : Pipe} {event : PipeEvent} {rest : List PipeEvent}
    (next : pipe.later = event :: rest) (busy : event ≠ .quiet) :
    pipe.soon = event :: (happen pipe).soon := by
  rw [happen_cons next, soon, next, List.takeWhile_cons_of_pos (by simpa using busy)]
  rfl

theorem burst_happen {pipe : Pipe} {event : PipeEvent} {rest : List PipeEvent}
    (next : pipe.later = event :: rest) (busy : event ≠ .quiet) :
    (happen pipe).burst = pipe.burst ∧ (happen pipe).endsSoon = pipe.endsSoon := by
  unfold burst endsSoon
  rw [soon_happen next busy, happen_cons next]
  cases event with
  | quiet => exact absurd rfl busy
  | wrote bytes => simp [after, written, PipeEvent.bytes]
  | closed => simp [after, written, PipeEvent.bytes]

theorem Flows.burst {pipe next : Pipe} (flows : Flows pipe next) :
    next.burst = pipe.burst ∧ next.endsSoon = pipe.endsSoon := by
  induction flows with
  | refl => exact ⟨rfl, rfl⟩
  | happen next busy flows ih =>
    obtain ⟨burst, ends⟩ := burst_happen next busy
    exact ⟨ih.1.trans burst, ih.2.trans ends⟩

theorem burst_of_blocked {pipe : Pipe} (blocked : pipe.readable = false)
    (silent : pipe.soon = []) : pipe.burst = [] ∧ pipe.endsSoon = false := by
  obtain ⟨empty, stillOpen⟩ := eq_of_blocked blocked
  simp [burst, endsSoon, silent, empty, stillOpen, written]

theorem burst_of_closed {pipe : Pipe} (settles : pipe.Settles) (closed : pipe.closed) :
    pipe.burst = pipe.buffered ∧ pipe.endsSoon := by
  simp [burst, endsSoon, soon, settles.2 closed, closed, written]

theorem burst_read {pipe rest : Pipe} {room : Nat} {bytes : List UInt8}
    (read : pipe.read room = (.bytes bytes, rest)) :
    bytes ++ rest.burst = pipe.burst ∧ rest.endsSoon = pipe.endsSoon := by
  obtain ⟨rfl, rfl⟩ := read_bytes read
  refine ⟨?_, rfl⟩
  unfold burst
  rw [← List.append_assoc, List.take_append_drop]
  rfl

/-- The block that a drain makes of the bytes that come to it, all at once. -/
def block (ceiling : Nat) (bytes : List UInt8) (ends : Bool) : Drained :=
  if ceiling ≤ bytes.length then ⟨bytes.take ceiling, false⟩ else ⟨bytes, ends⟩

/-- **A block depends on what comes without a pause**, whenever in between it comes. -/
theorem block_eq {ceiling : Nat} {data : List UInt8} {pipe : Pipe} (settles : pipe.Settles)
    (short : data.length < ceiling) :
    (drainFrom ceiling data pipe).1 = block ceiling (data ++ pipe.burst) pipe.endsSoon := by
  have all (data : List UInt8) (short : data.length < ceiling) (ends : Bool) :
      block ceiling (data ++ []) ends = ⟨data, ends⟩ := by
    rw [List.append_nil, block, if_neg (Nat.not_le_of_lt short)]
  fun_induction drainFrom ceiling data pipe with
  | case1 data pipe rest read =>
    obtain ⟨empty, closed⟩ := endOfFile_of_room (room_pos short) (congrArg Prod.fst read)
    obtain ⟨burst, ends⟩ := burst_of_closed settles closed
    rw [burst, empty, ends, all data short]
  | case2 data pipe bytes rest read full =>
    have fits := (Pipe.volume_read read).2.2
    have length : (data ++ bytes).length = ceiling := by
      rw [List.length_append] at full ⊢
      omega
    obtain ⟨burst, -⟩ := burst_read read
    rw [← burst, ← List.append_assoc, block, if_pos (by rw [List.length_append]; omega),
      List.take_left' length]
  | case3 data pipe bytes rest read fits ih =>
    obtain ⟨burst, ends⟩ := burst_read read
    rw [ih (settles_read settles read) (Nat.lt_of_not_le fits), List.append_assoc, burst, ends]
  | case4 data pipe rest read next waited ih =>
    obtain ⟨rfl, -, -⟩ := Pipe.read_nothingYet read
    have kept := settles_wait settles
    have waits := waited_wait rest
    rw [waited] at kept waits
    cases waits with
    | ready flows readable => rw [ih kept short, flows.burst.1, flows.burst.2]
  | case5 data pipe rest read next waited =>
    obtain ⟨rfl, -, -⟩ := Pipe.read_nothingYet read
    have waits := waited_wait rest
    rw [waited] at waits
    cases waits with
    | paused flows blocked pause =>
      obtain ⟨burst, ends⟩ := burst_of_blocked blocked (by rw [soon, pause]; rfl)
      rw [← flows.burst.1, ← flows.burst.2, burst, ends, all data short]
    | forsaken flows blocked nothing =>
      obtain ⟨burst, ends⟩ := burst_of_blocked blocked (by rw [soon, nothing]; rfl)
      rw [← flows.burst.1, ← flows.burst.2, burst, ends, all data short]

theorem Flows.settles {pipe next : Pipe} (flows : Flows pipe next) (settles : pipe.Settles) :
    next.Settles := by
  induction flows with
  | refl => exact settles
  | happen next busy flows ih =>
    refine ih ?_
    rw [happen_cons next, after_later]
    exact settles_after settles next

/-- What comes without a pause may have come before a drain reads, or come while it waits. -/
theorem block_of_flows {ceiling : Nat} {data : List UInt8} {pipe next : Pipe}
    (settles : pipe.Settles) (short : data.length < ceiling) (flows : Flows pipe next) :
    (drainFrom ceiling data next).1 = (drainFrom ceiling data pipe).1 := by
  rw [block_eq (flows.settles settles) short, block_eq settles short, flows.burst.1, flows.burst.2]

end LaunchSupervisor.Pipe
