import LaunchSupervisor.Stderr.Drain

/-!
**The bytes of a pipe.** What a pipe holds and what its history will yet write are its contents.
Nothing but a drain takes from them, and a drain hands over exactly what it takes, from the front.

* `contents_drain`: what a drain hands over and what it leaves are together the contents.
* `drain_closed`: from a closed pipe it takes as much as it may.
* `contents_of_drain_closed`: a pipe is used up only when it is empty.
-/

namespace LaunchSupervisor

namespace PipeEvent

/-- The bytes that an event writes. -/
def bytes : PipeEvent → List UInt8
  | .wrote bytes => bytes
  | .quiet => []
  | .closed => []

/-- The bytes that a history writes. -/
def written (events : List PipeEvent) : List UInt8 :=
  events.flatMap bytes

/-- Whether nothing follows the closing of the pipe in a history. -/
def closesLast : List PipeEvent → Bool
  | [] => true
  | .closed :: rest => rest.isEmpty
  | .wrote _ :: rest => closesLast rest
  | .quiet :: rest => closesLast rest

theorem closesLast_tail {event : PipeEvent} {rest : List PipeEvent}
    (last : closesLast (event :: rest)) : closesLast rest := by
  cases event with
  | closed =>
    have empty : rest = [] := List.isEmpty_iff.mp last
    rw [empty]
    rfl
  | wrote bytes => exact last
  | quiet => exact last

end PipeEvent

namespace Pipe

open PipeEvent (written closesLast)

/-- The bytes that a pipe holds or will hold. -/
def contents (pipe : Pipe) : List UInt8 :=
  pipe.buffered ++ written pipe.later

/-- Whether nothing happens to the pipe once it is closed. -/
def Settles (pipe : Pipe) : Prop :=
  closesLast pipe.later ∧ (pipe.closed → pipe.later = [])

theorem contents_ofHistory (history : List PipeEvent) :
    (ofHistory history).contents = written history := rfl

theorem settles_ofHistory {history : List PipeEvent} (last : closesLast history) :
    (ofHistory history).Settles :=
  ⟨last, fun closed => by cases closed⟩

/-! ### What happens to a pipe -/

/-- The next event takes from the history what it adds to the buffer. -/
theorem contents_after (pipe : Pipe) {event : PipeEvent} {rest : List PipeEvent}
    (next : pipe.later = event :: rest) :
    (after { pipe with later := rest } event).contents = pipe.contents := by
  unfold contents
  rw [next]
  cases event <;> simp [after, written, PipeEvent.bytes]

theorem settles_after {pipe : Pipe} (settles : pipe.Settles) {event : PipeEvent}
    {rest : List PipeEvent} (next : pipe.later = event :: rest) :
    (after { pipe with later := rest } event).Settles := by
  obtain ⟨last, settled⟩ := settles
  rw [next] at last settled
  have still : pipe.closed = false := by
    cases closed : pipe.closed with
    | false => rfl
    | true => cases settled closed
  cases event with
  | closed => exact ⟨PipeEvent.closesLast_tail last, fun _ => List.isEmpty_iff.mp last⟩
  | wrote bytes =>
    exact ⟨PipeEvent.closesLast_tail last, fun closed => by simp [after, still] at closed⟩
  | quiet =>
    exact ⟨PipeEvent.closesLast_tail last, fun closed => by simp [after, still] at closed⟩

/-- An event that happens next, with the rest of the history still to come. -/
theorem after_later (pipe : Pipe) (event : PipeEvent) (rest : List PipeEvent) :
    ({ pipe.after event with later := rest } : Pipe) = after { pipe with later := rest } event := by
  cases event <;> rfl

theorem waitFrom_contents (pipe : Pipe) (events : List PipeEvent) :
    (pipe.waitFrom events).2.contents = ({ pipe with later := events } : Pipe).contents := by
  induction events generalizing pipe with
  | nil => rfl
  | cons event rest ih =>
    have moved : ({ pipe.after event with later := rest } : Pipe).contents =
        ({ pipe with later := event :: rest } : Pipe).contents := by
      rw [after_later]
      exact contents_after { pipe with later := event :: rest } rfl
    simp only [waitFrom]
    split
    · rfl
    · split
      · rename_i quiet
        rw [quiet] at moved ⊢
        exact moved
      · rw [ih, moved]

theorem waitFrom_settles (pipe : Pipe) (events : List PipeEvent)
    (settles : ({ pipe with later := events } : Pipe).Settles) :
    (pipe.waitFrom events).2.Settles := by
  induction events generalizing pipe with
  | nil => exact settles
  | cons event rest ih =>
    have moved : ({ pipe.after event with later := rest } : Pipe).Settles := by
      rw [after_later]
      exact settles_after settles rfl
    simp only [waitFrom]
    split
    · exact settles
    · split
      · rename_i quiet
        rw [quiet] at moved
        exact moved
      · exact ih _ moved

theorem contents_wait (pipe : Pipe) : pipe.wait.2.contents = pipe.contents :=
  waitFrom_contents pipe pipe.later

theorem settles_wait {pipe : Pipe} (settles : pipe.Settles) : pipe.wait.2.Settles :=
  waitFrom_settles pipe pipe.later settles

/-! ### Reading -/

/-- A read that brings bytes takes as many as it may from the front. -/
theorem read_bytes {pipe rest : Pipe} {room : Nat} {bytes : List UInt8}
    (read : pipe.read room = (.bytes bytes, rest)) :
    bytes = pipe.buffered.take room ∧
      rest = { pipe with buffered := pipe.buffered.drop room } := by
  unfold Pipe.read at read
  split at read
  · cases read
  · split at read
    · split at read <;> cases read
    · cases read
      exact ⟨rfl, rfl⟩

theorem contents_read {pipe rest : Pipe} {room : Nat} {bytes : List UInt8}
    (read : pipe.read room = (.bytes bytes, rest)) : bytes ++ rest.contents = pipe.contents := by
  obtain ⟨rfl, rfl⟩ := read_bytes read
  unfold contents
  rw [← List.append_assoc, List.take_append_drop]

theorem settles_read {pipe rest : Pipe} {room : Nat} {bytes : List UInt8} (settles : pipe.Settles)
    (read : pipe.read room = (.bytes bytes, rest)) : rest.Settles := by
  obtain ⟨-, rfl⟩ := read_bytes read
  exact settles

/-! ### Draining -/

/-- **A drain hands over what it takes, from the front.** -/
theorem contents_drainFrom (ceiling : Nat) (data : List UInt8) (pipe : Pipe) :
    (drainFrom ceiling data pipe).1.data ++ (drainFrom ceiling data pipe).2.contents =
      data ++ pipe.contents := by
  fun_induction drainFrom ceiling data pipe with
  | case1 data pipe rest read => rw [Pipe.read_endOfFile read]
  | case2 data pipe bytes rest read _ =>
    rw [List.append_assoc, contents_read read]
  | case3 data pipe bytes rest read _ ih =>
    rw [ih, List.append_assoc, contents_read read]
  | case4 data pipe rest read next waited ih =>
    obtain ⟨rfl, -, -⟩ := Pipe.read_nothingYet read
    have kept := contents_wait rest
    rw [waited] at kept
    rw [ih, kept]
  | case5 data pipe rest read next waited =>
    obtain ⟨rfl, -, -⟩ := Pipe.read_nothingYet read
    have kept := contents_wait rest
    rw [waited] at kept
    rw [kept]

theorem settles_drainFrom {pipe : Pipe} (settles : pipe.Settles) (ceiling : Nat)
    (data : List UInt8) : (drainFrom ceiling data pipe).2.Settles := by
  fun_induction drainFrom ceiling data pipe with
  | case1 data pipe rest read => rwa [Pipe.read_endOfFile read]
  | case2 data pipe bytes rest read _ => exact settles_read settles read
  | case3 data pipe bytes rest read _ ih => exact ih (settles_read settles read)
  | case4 data pipe rest read next waited ih =>
    obtain ⟨rfl, -, -⟩ := Pipe.read_nothingYet read
    have kept := settles_wait settles
    rw [waited] at kept
    exact ih kept
  | case5 data pipe rest read next waited =>
    obtain ⟨rfl, -, -⟩ := Pipe.read_nothingYet read
    have kept := settles_wait settles
    rw [waited] at kept
    exact kept

/-- A block that is not full leaves room to read into. -/
theorem room_pos {ceiling : Nat} {data : List UInt8} (short : data.length < ceiling) :
    min (ceiling - data.length) readSize ≠ 0 := by
  have positive : 0 < readSize := by decide
  omega

/-- **A pipe is used up only when it is empty.** -/
theorem contents_of_used_up {pipe : Pipe} (settles : pipe.Settles) {ceiling : Nat}
    {data : List UInt8} (short : data.length < ceiling)
    (closed : (drainFrom ceiling data pipe).1.closed) :
    (drainFrom ceiling data pipe).2.contents = [] := by
  fun_induction drainFrom ceiling data pipe with
  | case1 data pipe rest read =>
    have ends := (read_eq_endOfFile_iff pipe _).mp (by rw [read])
    rcases ends with none | ⟨empty, ended⟩
    · exact absurd none (room_pos short)
    · rw [Pipe.read_endOfFile read, contents, empty, settles.2 ended]
      rfl
  | case2 data pipe bytes rest read _ => cases closed
  | case3 data pipe bytes rest read more ih =>
    exact ih (settles_read settles read) (Nat.lt_of_not_le more) closed
  | case4 data pipe rest read next waited ih =>
    obtain ⟨rfl, -, -⟩ := Pipe.read_nothingYet read
    have kept := settles_wait settles
    rw [waited] at kept
    exact ih kept short closed
  | case5 data pipe rest read next waited => cases closed

/-- Taking some of a list and then more of the rest is taking more at once. -/
theorem take_append_take_drop {α : Type} (list : List α) {n m : Nat} (less : n ≤ m) :
    list.take n ++ (list.drop n).take (m - (list.take n).length) = list.take m := by
  rw [List.length_take]
  by_cases all : list.length ≤ n
  · rw [List.drop_eq_nil_of_le all, List.take_of_length_le all,
      List.take_of_length_le (Nat.le_trans all less), List.take_nil, List.append_nil]
  · have length : min n list.length = n := by omega
    rw [length]
    obtain ⟨k, rfl⟩ := Nat.exists_eq_add_of_le less
    rw [Nat.add_sub_cancel_left, List.take_add]

/-- **From a closed pipe a drain takes as much as it may.** -/
theorem drainFrom_closed {pipe : Pipe} (settles : pipe.Settles) (closed : pipe.closed)
    {ceiling : Nat} {data : List UInt8} (short : data.length < ceiling) :
    (drainFrom ceiling data pipe).1.data =
        data ++ pipe.contents.take (ceiling - data.length) ∧
      (drainFrom ceiling data pipe).2.closed := by
  have held (pipe : Pipe) (settles : pipe.Settles) (closed : pipe.closed) :
      pipe.contents = pipe.buffered := by
    rw [contents, settles.2 closed]
    exact List.append_nil _
  -- By induction on the reads; a closed pipe is never waited for, so the last two cases are out.
  fun_induction drainFrom ceiling data pipe with
  | case1 data pipe rest read =>
    have ends := (read_eq_endOfFile_iff pipe _).mp (by rw [read])
    rcases ends with none | ⟨empty, -⟩
    · exact absurd none (room_pos short)
    · rw [Pipe.read_endOfFile read, held pipe settles closed, empty, List.take_nil,
        List.append_nil]
      exact ⟨rfl, closed⟩
  | case2 data pipe bytes rest read full =>
    obtain ⟨rfl, rfl⟩ := read_bytes read
    refine ⟨?_, closed⟩
    rw [held pipe settles closed]
    rw [List.length_append, List.length_take] at full
    have room : min (ceiling - data.length) readSize = ceiling - data.length := by omega
    rw [room]
  | case3 data pipe bytes rest read more ih =>
    have less : min (ceiling - data.length) readSize ≤ ceiling - data.length :=
      Nat.min_le_left _ _
    have settled := settles_read settles read
    obtain ⟨rfl, rfl⟩ := read_bytes read
    obtain ⟨taken, still⟩ := ih settled closed (Nat.lt_of_not_le more)
    refine ⟨?_, still⟩
    rw [taken, held _ settled closed, held pipe settles closed, List.append_assoc,
      List.length_append, ← Nat.sub_sub, take_append_take_drop _ less]
  | case4 data pipe rest read next waited ih =>
    obtain ⟨-, -, stillOpen⟩ := Pipe.read_nothingYet read
    rw [closed] at stillOpen
    cases stillOpen
  | case5 data pipe rest read next waited =>
    obtain ⟨-, -, stillOpen⟩ := Pipe.read_nothingYet read
    rw [closed] at stillOpen
    cases stillOpen

/-! ### A whole drain -/

section

variable (pipe : Pipe) (ceiling : Nat)

theorem contents_drain :
    (pipe.drain ceiling).1.data ++ (pipe.drain ceiling).2.contents = pipe.contents :=
  contents_drainFrom (max ceiling 1) [] pipe

theorem block_pos : ([] : List UInt8).length < max ceiling 1 :=
  Nat.lt_of_lt_of_le Nat.zero_lt_one (Nat.le_max_right ceiling 1)

variable {pipe} (settles : pipe.Settles)

include settles

theorem settles_drain : (pipe.drain ceiling).2.Settles :=
  settles_drainFrom settles (max ceiling 1) []

theorem contents_of_drain_closed (closed : (pipe.drain ceiling).1.closed) :
    (pipe.drain ceiling).2.contents = [] :=
  contents_of_used_up settles (block_pos ceiling) closed

theorem drain_closed (closed : pipe.closed) :
    (pipe.drain ceiling).1.data = pipe.contents.take (max ceiling 1) ∧
      (pipe.drain ceiling).2.contents = pipe.contents.drop (max ceiling 1) ∧
      (pipe.drain ceiling).2.closed := by
  obtain ⟨taken, still⟩ := drainFrom_closed settles closed (block_pos ceiling)
  have whole := contents_drain pipe ceiling
  refine ⟨taken, ?_, still⟩
  rw [show (pipe.drain ceiling).1.data = pipe.contents.take (max ceiling 1) from taken] at whole
  exact List.append_cancel_left (whole.trans (List.take_append_drop _ _).symm)

end

end Pipe

end LaunchSupervisor
