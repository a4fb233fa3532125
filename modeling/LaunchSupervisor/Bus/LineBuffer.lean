import LaunchSupervisor.Bus.Frame

/-!
**Frames out of a stream of bytes.** Bytes are kept until a line is complete; a line that is blank
is skipped, and one that is no frame is reported and gone.

* `pop_length`: popping a frame or a bad line leaves fewer bytes.
* `pop_incomplete`: nothing is popped only if no line is complete.
-/

namespace LaunchSupervisor.Bus

/-- The longest line that is waited for. -/
def longestLine : Nat := 1048576

/-- A blank of ASCII. -/
def isAsciiBlank (b : UInt8) : Bool :=
  b == 32 || b == 9 || b == 10 || b == 12 || b == 13

/-- The end of a line. -/
def lineFeed : UInt8 := 10

/-- What popping brings. -/
inductive Popped where
  | frame (frame : Frame)
  /-- A line that is no frame. -/
  | malformed
  /-- No line is complete, and the one under way is longer than any may be. -/
  | oversized
  /-- No line is complete. -/
  | incomplete
deriving DecidableEq

/-- What a line that is not blank brings. -/
def Popped.ofLine (line : List UInt8) : Popped :=
  match Frame.ofLine? line with
  | some read => .frame read
  | none => .malformed

/-- Pops the first line that is not blank. -/
def pop (buffer : List UInt8) : Popped × List UInt8 :=
  match _found : buffer.dropWhile (· != lineFeed) with
  | [] => (if longestLine < buffer.length then .oversized else .incomplete, buffer)
  | _ :: rest =>
    let line := buffer.takeWhile (· != lineFeed)
    if line.all isAsciiBlank then pop rest else (.ofLine line, rest)
termination_by buffer.length
decreasing_by
  have shorter := (List.dropWhile_suffix (· != lineFeed) (l := buffer)).length_le
  rw [_found] at shorter
  simpa using Nat.lt_of_succ_le shorter

/-- Whether a line was popped. -/
def Popped.isLine : Popped → Bool
  | .frame _ => true
  | .malformed => true
  | .oversized => false
  | .incomplete => false

/-! ### What popping leaves -/

theorem isLine_ofLine (line : List UInt8) : (Popped.ofLine line).isLine = true := by
  unfold Popped.ofLine
  split <;> rfl

theorem length_afterLine_lt {buffer rest : List UInt8} {b : UInt8}
    (found : buffer.dropWhile (· != lineFeed) = b :: rest) : rest.length < buffer.length := by
  have shorter := (List.dropWhile_suffix (· != lineFeed) (l := buffer)).length_le
  rw [found] at shorter
  simpa using Nat.lt_of_succ_le shorter

theorem pop_length_le (buffer : List UInt8) : (pop buffer).2.length ≤ buffer.length := by
  fun_induction pop buffer with
  | case1 => exact Nat.le_refl _
  | case2 buffer b rest found line blank ih =>
    exact Nat.le_trans ih (Nat.le_of_lt (length_afterLine_lt found))
  | case3 buffer b rest found line notBlank => exact Nat.le_of_lt (length_afterLine_lt found)

theorem pop_length {buffer : List UInt8} (popped : (pop buffer).1.isLine) :
    (pop buffer).2.length < buffer.length := by
  fun_induction pop buffer with
  | case1 buffer => split at popped <;> cases popped
  | case2 buffer b rest found line blank ih =>
    exact Nat.lt_of_le_of_lt (pop_length_le rest) (length_afterLine_lt found)
  | case3 buffer b rest found line notBlank => exact length_afterLine_lt found

/-- What is left when no line was popped holds no complete line. -/
theorem pop_incomplete {buffer : List UInt8} (nothing : (pop buffer).1.isLine = false) :
    lineFeed ∉ (pop buffer).2 := by
  fun_induction pop buffer with
  | case1 buffer found =>
    intro member
    have whole := List.takeWhile_append_dropWhile (p := (· != lineFeed)) (l := buffer)
    rw [found, List.append_nil] at whole
    have kept := List.all_takeWhile (p := (· != lineFeed)) (l := buffer)
    rw [whole] at kept
    simpa using List.all_eq_true.mp kept lineFeed member
  | case2 buffer b rest found line blank ih => exact ih nothing
  | case3 buffer b rest found line notBlank =>
    rw [isLine_ofLine] at nothing
    cases nothing

end LaunchSupervisor.Bus
