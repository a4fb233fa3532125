import LaunchSupervisor.Bus.Socket

/-!
**The lines of a stream of bytes.** What a stream brings is said line by line, without regard to how
it arrives: nothing for a blank line, a frame for a line that is one, a fault for any other. Popping
from a buffer is then the first of these, whatever is still to come after the buffer.

* `line_induction`: a stream is taken line by line.
* `pop_line`, `pop_unterminated`: what popping makes of the first line.
* `Pops`, `pops`: popping takes the next outcome off the stream, or leaves a piece of a line.
-/

namespace LaunchSupervisor.Bus

/-- The lines of a stream that have come to their end. -/
def completeLines (stream : List UInt8) : List (List UInt8) :=
  (stream.splitOn lineFeed).dropLast

/-- What taking a line brings, if anything. -/
def outcome? (line : List UInt8) : Option Taken :=
  if line.all isAsciiBlank then none
  else
    match Frame.ofLine? line with
    | some frame => some (.ok (some frame))
    | none => some (.error (.protocol "bad frame"))

/-- What the lines of a stream bring, in order. -/
def outcomes (stream : List UInt8) : List Taken :=
  (completeLines stream).filterMap outcome?

/-- Whether no line of a stream is longer than is waited for, the last one included. -/
def Bounded (stream : List UInt8) : Prop :=
  ∀ line ∈ stream.splitOn lineFeed, line.length ≤ longestLine

/-! ### The first line -/

section

variable {line rest : List UInt8} (plain : lineFeed ∉ line)

include plain

theorem completeLines_line :
    completeLines (line ++ lineFeed :: rest) = line :: completeLines rest := by
  rw [completeLines, List.splitOn_append_cons_self_of_not_mem plain,
    List.dropLast_cons_of_ne_nil (List.splitOn_ne_nil _ _), completeLines]

theorem completeLines_unterminated : completeLines line = [] := by
  rw [completeLines, List.splitOn_eq_singleton plain]
  rfl

theorem bounded_line_iff :
    Bounded (line ++ lineFeed :: rest) ↔ line.length ≤ longestLine ∧ Bounded rest := by
  simp [Bounded, List.splitOn_append_cons_self_of_not_mem plain]

theorem bne_lineFeed : ∀ b ∈ line, (b != lineFeed) = true := fun _ member =>
  bne_iff_ne.mpr fun same => plain (same ▸ member)

theorem pop_line :
    pop (line ++ lineFeed :: rest) =
      if line.all isAsciiBlank then pop rest else (.ofLine line, rest) := by
  have before : (line ++ lineFeed :: rest).takeWhile (· != lineFeed) = line := by
    rw [List.takeWhile_append_of_pos (bne_lineFeed plain)]
    simp
  have after : (line ++ lineFeed :: rest).dropWhile (· != lineFeed) = lineFeed :: rest := by
    rw [List.dropWhile_append_of_pos (bne_lineFeed plain)]
    simp
  rw [pop]
  split
  · rename_i nothing
    rw [after] at nothing
    cases nothing
  · rename_i found
    rw [after] at found
    cases found
    rw [before]

theorem pop_unterminated :
    pop line = (if longestLine < line.length then .oversized else .incomplete, line) := by
  have nothing : line.dropWhile (· != lineFeed) = [] := by
    simpa using @List.dropWhile_append_of_pos _ (· != lineFeed) _ [] (bne_lineFeed plain)
  rw [pop]
  split
  · rfl
  · rename_i found
    rw [nothing] at found
    cases found

end

/-- A stream is a piece without a line feed, or a line that comes before a stream. -/
@[elab_as_elim]
theorem line_induction {motive : List UInt8 → Prop}
    (piece : ∀ line, lineFeed ∉ line → motive line)
    (line : ∀ line rest, lineFeed ∉ line → motive rest → motive (line ++ lineFeed :: rest))
    (stream : List UInt8) : motive stream := by
  by_cases member : lineFeed ∈ stream
  · obtain ⟨first, rest, whole, plain⟩ := List.eq_append_cons_of_mem member
    have shorter : rest.length < stream.length := by
      rw [whole, List.length_append, List.length_cons]
      omega
    rw [whole]
    exact line first rest plain (line_induction piece line rest)
  · exact piece stream member
termination_by stream.length

/-! ### Popping from a stream -/

theorem taken?_ofLine {line : List UInt8} (filled : line.all isAsciiBlank = false) :
    Socket.taken? (.ofLine line) = outcome? line := by
  simp only [outcome?, filled, Popped.ofLine]
  cases Frame.ofLine? line <;> rfl

theorem outcomes_line {line rest : List UInt8} (plain : lineFeed ∉ line) :
    outcomes (line ++ lineFeed :: rest) = (outcome? line).toList ++ outcomes rest := by
  rw [outcomes, completeLines_line plain, List.filterMap_cons, ← outcomes]
  cases outcome? line <;> rfl

theorem outcomes_unterminated {line : List UInt8} (plain : lineFeed ∉ line) :
    outcomes line = [] := by
  rw [outcomes, completeLines_unterminated plain, List.filterMap_nil]

/-- What popping from a buffer makes of the stream that the buffer is the start of. -/
inductive Pops (buffer later : List UInt8) : Popped × List UInt8 → Prop where
  | line {popped : Popped} {taken : Taken} {rest : List UInt8}
    (isLine : popped.isLine) (means : Socket.taken? popped = some taken)
    (first : outcomes (buffer ++ later) = taken :: outcomes (rest ++ later))
    (bounded : Bounded (rest ++ later)) : Pops buffer later (popped, rest)
  /-- The buffer holds no more than blank lines and a piece of a line. -/
  | piece {rest : List UInt8} (plain : lineFeed ∉ rest)
    (same : outcomes (buffer ++ later) = outcomes (rest ++ later))
    (bounded : Bounded (rest ++ later)) : Pops buffer later (.incomplete, rest)

theorem Pops.skip {buffer rest later : List UInt8} {result : Popped × List UInt8}
    (same : outcomes (buffer ++ later) = outcomes (rest ++ later)) (pops : Pops rest later result) :
    Pops buffer later result := by
  cases pops with
  | line isLine means first bounded => exact .line isLine means (same.trans first) bounded
  | piece plain kept bounded => exact .piece plain (same.trans kept) bounded

/-- What is left when nothing was popped. -/
theorem Pops.incomplete {buffer rest later : List UInt8}
    (pops : Pops buffer later (.incomplete, rest)) :
    lineFeed ∉ rest ∧ outcomes (buffer ++ later) = outcomes (rest ++ later) ∧
      Bounded (rest ++ later) := by
  cases pops with
  | line isLine means first bounded => cases isLine
  | piece plain same bounded => exact ⟨plain, same, bounded⟩

/-- A piece of a line is no longer than the line. -/
theorem length_le_of_bounded {piece later : List UInt8} (plain : lineFeed ∉ piece)
    (bounded : Bounded (piece ++ later)) : piece.length ≤ longestLine := by
  induction later using line_induction with
  | piece last unterminated =>
    have whole := bounded (piece ++ last) (by
      rw [List.splitOn_eq_singleton (by simp [plain, unterminated])]
      exact List.mem_singleton_self _)
    rw [List.length_append] at whole
    omega
  | line line rest plainLine _ =>
    rw [← List.append_assoc] at bounded
    have whole := ((bounded_line_iff (by simp [plain, plainLine])).mp bounded).1
    rw [List.length_append] at whole
    omega

/-- **Popping takes the next outcome off the stream**, or leaves a piece of a line that needs more
bytes. -/
theorem pops (buffer later : List UInt8) (bounded : Bounded (buffer ++ later)) :
    Pops buffer later (pop buffer) := by
  induction buffer using line_induction with
  | piece line unterminated =>
    rw [pop_unterminated unterminated,
      if_neg (Nat.not_lt.mpr (length_le_of_bounded unterminated bounded))]
    exact .piece unterminated rfl bounded
  | line line rest plain ih =>
    rw [List.append_assoc, List.cons_append] at bounded
    have boundedRest := ((bounded_line_iff plain).mp bounded).2
    have split : outcomes (line ++ lineFeed :: rest ++ later) =
        (outcome? line).toList ++ outcomes (rest ++ later) := by
      rw [List.append_assoc, List.cons_append, outcomes_line plain]
    rw [pop_line plain]
    by_cases blank : line.all isAsciiBlank
    · have nothing : outcome? line = none := if_pos blank
      rw [nothing, Option.toList_none, List.nil_append] at split
      rw [if_pos blank]
      exact (ih boundedRest).skip split
    · obtain ⟨taken, brings⟩ : ∃ taken, outcome? line = some taken := by
        rw [outcome?, if_neg blank]
        cases Frame.ofLine? line <;> exact ⟨_, rfl⟩
      have means : Socket.taken? (.ofLine line) = some taken := by
        rw [taken?_ofLine (Bool.eq_false_iff.mpr blank), brings]
      rw [if_neg blank]
      exact .line (isLine_ofLine line) means (by rw [split, brings]; rfl) boundedRest

end LaunchSupervisor.Bus
