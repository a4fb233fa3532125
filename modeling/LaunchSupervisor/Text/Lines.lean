/-!
**Lines of a text.** A line ends at a line feed; a carriage return directly before that line feed
belongs to the line end. The text after the last line feed is a line of its own unless it is empty,
and there a carriage return stays.

* `lines_append_newline`: a text whose first line is closed splits into that line and the rest.
* `newline_not_mem_lines`: no line holds a line feed.
-/

namespace LaunchSupervisor.Text

/-- A closed line without the carriage return before its line feed; the line is given back to
front, as it was read. -/
def closeLine : List Char → List Char
  | '\r' :: reversed => reversed.reverse
  | reversed => reversed.reverse

/-- The lines read so far and the line being read, each held back to front. -/
def linesFrom (done : List (List Char)) (current : List Char) : List Char → List (List Char)
  | [] => (if current.isEmpty then done else current.reverse :: done).reverse
  | c :: rest =>
    if c = '\n' then linesFrom (closeLine current :: done) [] rest
    else linesFrom done (c :: current) rest

/-- The lines of a text, without their line ends. -/
def lines (text : List Char) : List (List Char) :=
  linesFrom [] [] text

/-- The lines of a text that are not empty. -/
def filledLines (text : List Char) : List (List Char) :=
  (lines text).filter fun line => !line.isEmpty

/-- Texts written one after the other with a line feed between neighbours. -/
def joinLines : List (List Char) → List Char
  | [] => []
  | [last] => last
  | line :: rest => line ++ '\n' :: joinLines rest

/-! ### How lines are found -/

theorem linesFrom_done (done : List (List Char)) (current text : List Char) :
    linesFrom done current text = done.reverse ++ linesFrom [] current text := by
  induction text generalizing done current with
  | nil =>
    unfold linesFrom
    split <;> simp
  | cons c rest ih =>
    unfold linesFrom
    split
    · rw [ih, ih [closeLine current]]
      simp
    · exact ih done (c :: current)

theorem linesFrom_append_newline (current line rest : List Char) (plain : '\n' ∉ line) :
    linesFrom [] current (line ++ '\n' :: rest) =
      closeLine (line.reverse ++ current) :: lines rest := by
  induction line generalizing current with
  | nil =>
    simp only [List.nil_append, linesFrom, if_pos, List.reverse_nil]
    rw [linesFrom_done]
    rfl
  | cons c line ih =>
    have other : c ≠ '\n' := fun same => plain (same ▸ List.mem_cons_self)
    simp only [List.cons_append, linesFrom, if_neg other]
    rw [ih _ fun member => plain (List.mem_cons_of_mem _ member)]
    simp

/-- The first closed line of a text, then the lines of the rest. -/
theorem lines_append_newline (line rest : List Char) (plain : '\n' ∉ line) :
    lines (line ++ '\n' :: rest) = closeLine line.reverse :: lines rest := by
  simpa [lines] using linesFrom_append_newline [] line rest plain

@[simp] theorem lines_nil : lines [] = [] := rfl

theorem closeLine_reverse (line : List Char) :
    closeLine line.reverse = if line.getLast? = some '\r' then line.dropLast else line := by
  rcases List.eq_nil_or_concat line with rfl | ⟨start, last, rfl⟩
  · rfl
  · by_cases close : last = '\r'
    · simp [closeLine, close]
    · simp [closeLine, close]

theorem mem_of_mem_closeLine {reversed : List Char} {c : Char} (member : c ∈ closeLine reversed) :
    c ∈ reversed := by
  unfold closeLine at member
  split at member
  · exact List.mem_cons_of_mem _ (List.mem_reverse.mp member)
  · exact List.mem_reverse.mp member

theorem newline_not_mem_linesFrom {done : List (List Char)} {current : List Char}
    (doneHere : ∀ line ∈ done, '\n' ∉ line) (here : '\n' ∉ current) (text : List Char) :
    ∀ line ∈ linesFrom done current text, '\n' ∉ line := by
  induction text generalizing done current with
  | nil =>
    intro line member
    unfold linesFrom at member
    split at member
    · exact doneHere line (List.mem_reverse.mp member)
    · rcases List.mem_cons.mp (List.mem_reverse.mp member) with rfl | earlier
      · exact fun found => here (List.mem_reverse.mp found)
      · exact doneHere line earlier
  | cons c rest ih =>
    unfold linesFrom
    split
    · refine ih (fun line member => ?_) List.not_mem_nil
      rcases List.mem_cons.mp member with rfl | earlier
      · exact fun found => here (mem_of_mem_closeLine found)
      · exact doneHere line earlier
    · rename_i other
      exact ih doneHere fun found => (List.mem_cons.mp found).elim (other ·.symm) here

theorem newline_not_mem_lines {text line : List Char} (member : line ∈ lines text) :
    '\n' ∉ line :=
  @newline_not_mem_linesFrom [] [] nofun List.not_mem_nil text line member

end LaunchSupervisor.Text
