import LaunchSupervisor.Text.Lines

/-!
**Texts and the lines they consist of.** `Consists` says which texts have which lines: a line is
closed by a line feed, with or without a carriage return before it, and the last one may be left
open. Reading finds just these lines, and what is written behind a line feed does not influence what
is read before it.

* `lines_eq_iff`: the lines that are read are those that a text consists of.
* `lines_joinLines_concat`: texts that are joined are read one by one.
-/

namespace LaunchSupervisor.Text

/-! ### What a text consists of -/

/-- **A text consists of lines**, each closed by a line feed or by a carriage return with a line
feed. The last line may be left open unless it is empty. -/
inductive Consists : List (List Char) → List Char → Prop where
  | nil : Consists [] []
  | leftOpen {line : List Char} (filled : line ≠ []) (plain : '\n' ∉ line) :
    Consists [line] line
  | closed {line text : List Char} {lines : List (List Char)} (plain : '\n' ∉ line)
    (unreturned : line.getLast? ≠ some '\r') (later : Consists lines text) :
    Consists (line :: lines) (line ++ '\n' :: text)
  | returned {line text : List Char} {lines : List (List Char)} (plain : '\n' ∉ line)
    (later : Consists lines text) : Consists (line :: lines) (line ++ '\r' :: '\n' :: text)

theorem linesFrom_plain (current : List Char) {line : List Char} (plain : '\n' ∉ line) :
    linesFrom [] current line =
      if line = [] ∧ current = [] then [] else [current.reverse ++ line] := by
  induction line generalizing current with
  | nil =>
    by_cases empty : current = [] <;> simp [linesFrom, empty]
  | cons c line ih =>
    rw [List.mem_cons, not_or] at plain
    rw [linesFrom, if_neg (Ne.symm plain.1), ih (c :: current) plain.2]
    simp

/-- A line that is left open is read as it stands. -/
theorem lines_leftOpen {line : List Char} (filled : line ≠ []) (plain : '\n' ∉ line) :
    lines line = [line] := by
  rw [lines, linesFrom_plain [] plain, if_neg fun empty => filled empty.1]
  rfl

theorem lines_of_consists {found : List (List Char)} {text : List Char}
    (consists : Consists found text) : lines text = found := by
  induction consists with
  | nil => rfl
  | leftOpen filled plain => exact lines_leftOpen filled plain
  | closed plain unreturned later ih =>
    rw [lines_append_newline _ _ plain, closeLine_reverse, if_neg unreturned, ih]
  | @returned line text lines plain later ih =>
    have whole : line ++ '\r' :: '\n' :: text = (line ++ ['\r']) ++ '\n' :: text :=
      List.append_cons ..
    have plainReturn : '\n' ∉ line ++ ['\r'] := by simp [plain]
    rw [whole, lines_append_newline _ _ plainReturn, closeLine_reverse, ih]
    simp

/-- Every text consists of the lines that are read. -/
theorem consists_lines (text : List Char) : Consists (lines text) text := by
  by_cases member : '\n' ∈ text
  · obtain ⟨line, rest, whole, plain⟩ := List.eq_append_cons_of_mem member
    have shorter : rest.length < text.length := by
      rw [whole, List.length_append, List.length_cons]
      omega
    have later := consists_lines rest
    rw [whole, lines_append_newline _ _ plain, closeLine_reverse]
    by_cases returned : line.getLast? = some '\r'
    · obtain ⟨start, same⟩ := List.getLast?_eq_some_iff.mp returned
      rw [same, List.mem_append, not_or] at plain
      rw [if_pos returned, same, List.dropLast_concat, ← List.append_cons]
      exact .returned plain.1 later
    · rw [if_neg returned]
      exact .closed plain returned later
  · by_cases empty : text = []
    · rw [empty]
      exact .nil
    · rw [lines_leftOpen empty member]
      exact .leftOpen empty member
termination_by text.length

/-- **The lines that are read are those that the text consists of.** -/
theorem lines_eq_iff (text : List Char) (found : List (List Char)) :
    lines text = found ↔ Consists found text :=
  ⟨fun same => same ▸ consists_lines text, lines_of_consists⟩

/-! ### Texts behind one another -/

theorem linesFrom_append_closed (current text rest : List Char) :
    linesFrom [] current (text ++ '\n' :: rest) =
      linesFrom [] current (text ++ ['\n']) ++ lines rest := by
  induction text generalizing current with
  | nil =>
    simp only [List.nil_append, linesFrom, if_pos]
    rw [linesFrom_done]
    rfl
  | cons c text ih =>
    simp only [List.cons_append, linesFrom]
    split
    · rw [linesFrom_done, ih, linesFrom_done [closeLine current] [] (text ++ ['\n']),
        List.append_assoc]
    · exact ih (c :: current)

/-- What stands behind a line feed is read for itself. -/
theorem lines_append_closed (text rest : List Char) :
    lines (text ++ '\n' :: rest) = lines (text ++ ['\n']) ++ lines rest :=
  linesFrom_append_closed [] text rest

/-- **Texts that are joined are read one by one**, each but the last as if it were closed. -/
theorem lines_joinLines_concat (texts : List (List Char)) (last : List Char) :
    lines (joinLines (texts ++ [last])) =
      texts.flatMap (fun text => lines (text ++ ['\n'])) ++ lines last := by
  induction texts with
  | nil => rfl
  | cons text rest ih =>
    obtain ⟨next, others, same⟩ := List.exists_cons_of_ne_nil (List.concat_ne_nil last rest)
    have joined : joinLines (text :: next :: others) =
        text ++ '\n' :: joinLines (next :: others) := rfl
    rw [List.cons_append, same, joined, lines_append_closed, ← same, ih, List.flatMap_cons,
      List.append_assoc]

end LaunchSupervisor.Text
