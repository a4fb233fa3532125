import LaunchSupervisor.IconCache.Command

/-!
**The program of a command line.** What a command line runs is the first word of what is left of it
without placeholders and line continuations. Neither of these can arise from what is left, so the
program of a program is that program, and it can serve as a key and stand in a line of a file.

* `Leaves`: what is left of a command line, as it is written; `leaves_iff`: that is what stripping
  gives.
* `programText?_eq_self_iff`: the programs that are their own, `Canonical` texts.
* `program_canonical`: every program that is found is one of them.
-/

namespace LaunchSupervisor.IconCache

/-! ### What is left of a command line -/

/-- **What is left of a command line** without its placeholders and line continuations. -/
inductive Leaves : List Char → List Char → Prop where
  | nil : Leaves [] []
  /-- A placeholder reaches from one percent sign to the next. -/
  | placeholder {content rest left : List Char} (plain : '%' ∉ content)
    (later : Leaves rest left) :
    Leaves ('%' :: (content ++ '%' :: rest)) left
  /-- A placeholder that is not closed reaches to the end. -/
  | unclosed {content : List Char} (plain : '%' ∉ content) : Leaves ('%' :: content) []
  /-- A backslash goes if it stands directly before the end of a line, which stays. -/
  | continued {c : Char} {rest left : List Char} (ends : c = '\n' ∨ c = '\r')
    (later : Leaves (c :: rest) left) : Leaves ('\\' :: c :: rest) left
  | kept {c : Char} {rest left : List Char} (unmarked : c ≠ '%')
    (lone : c = '\\' → rest.head? ≠ some '\n' ∧ rest.head? ≠ some '\r')
    (later : Leaves rest left) : Leaves (c :: rest) (c :: left)

theorem startsLineEnd_iff (text : List Char) :
    startsLineEnd text ↔ text.head? = some '\n' ∨ text.head? = some '\r' := by
  unfold startsLineEnd
  split
  · simp
  · simp
  · rename_i notFeed notReturn
    cases text with
    | nil => simp
    | cons c rest =>
      have feed : c ≠ '\n' := fun same => notFeed rest (same ▸ rfl)
      have carriage : c ≠ '\r' := fun same => notReturn rest (same ▸ rfl)
      simp [feed, carriage]

section

variable {content rest : List Char}

/-- What a placeholder holds is skipped. -/
theorem stripFrom_inside (plain : '%' ∉ content) :
    stripFrom [] true (content ++ rest) = stripFrom [] true rest := by
  induction content with
  | nil => rfl
  | cons c content ih =>
    rw [List.mem_cons, not_or] at plain
    have goesOn : (c != '%') = true := bne_iff_ne.mpr (Ne.symm plain.1)
    rw [List.cons_append, stripFrom, if_pos rfl, goesOn, ih plain.2]

theorem strip_mark : strip ('%' :: rest) = stripFrom [] true rest := by
  rw [strip, stripFrom, if_neg Bool.false_ne_true, if_pos rfl]

theorem strip_placeholder (plain : '%' ∉ content) :
    strip ('%' :: (content ++ '%' :: rest)) = strip rest := by
  rw [strip_mark, stripFrom_inside plain]
  rfl

theorem strip_unclosed (plain : '%' ∉ content) : strip ('%' :: content) = [] := by
  rw [strip_mark, ← List.append_nil content, stripFrom_inside plain]
  rfl

theorem strip_continued (ends : startsLineEnd rest) : strip ('\\' :: rest) = strip rest := by
  rw [strip, stripFrom, if_neg Bool.false_ne_true, if_neg (by decide),
    if_pos ⟨rfl, ends⟩, strip]

theorem strip_kept {c : Char} (unmarked : c ≠ '%') (lone : ¬ (c = '\\' ∧ startsLineEnd rest)) :
    strip (c :: rest) = c :: strip rest := by
  rw [strip, stripFrom, if_neg Bool.false_ne_true, if_neg unmarked, if_neg lone, stripFrom_done]
  rfl

end

theorem strip_of_leaves {line left : List Char} (leaves : Leaves line left) :
    strip line = left := by
  induction leaves with
  | nil => rfl
  | placeholder plain later ih => rw [strip_placeholder plain, ih]
  | unclosed plain => exact strip_unclosed plain
  | continued ends later ih =>
    rw [strip_continued ((startsLineEnd_iff _).mpr (by simpa using ends)), ih]
  | kept unmarked lone later ih =>
    rw [strip_kept unmarked, ih]
    rintro ⟨backslash, ends⟩
    have stays := lone backslash
    exact ((startsLineEnd_iff _).mp ends).elim stays.1 stays.2

/-- Every command line leaves what stripping gives. -/
theorem leaves_strip (line : List Char) : Leaves line (strip line) := by
  match line with
  | [] => exact .nil
  | c :: rest =>
    by_cases mark : c = '%'
    · subst mark
      by_cases closed : '%' ∈ rest
      · obtain ⟨content, after, whole, plain⟩ := List.eq_append_cons_of_mem closed
        have shorter : after.length < rest.length := by
          rw [whole, List.length_append, List.length_cons]
          omega
        have later := leaves_strip after
        rw [whole, strip_placeholder plain]
        exact .placeholder plain later
      · rw [strip_unclosed closed]
        exact .unclosed closed
    · have later := leaves_strip rest
      by_cases continued : c = '\\' ∧ startsLineEnd rest
      · obtain ⟨rfl, ends⟩ := continued
        rw [strip_continued ends]
        rw [startsLineEnd_iff] at ends
        cases rest with
        | nil => simp at ends
        | cons next more => exact .continued (by simpa using ends) later
      · rw [strip_kept mark continued]
        refine .kept mark (fun backslash => ?_) later
        rw [← not_or, ← startsLineEnd_iff]
        exact fun ends => continued ⟨backslash, ends⟩
termination_by line.length
decreasing_by all_goals rw [List.length_cons]; omega

/-- **What stripping gives is what the command line leaves.** -/
theorem leaves_iff (line left : List Char) : Leaves line left ↔ strip line = left :=
  ⟨strip_of_leaves, fun same => same ▸ leaves_strip line⟩

theorem Leaves.sublist {line left : List Char} (leaves : Leaves line left) :
    left.Sublist line := by
  induction leaves with
  | nil => exact .slnil
  | placeholder plain later ih =>
    exact ((ih.cons _).trans (List.sublist_append_right _ _)).cons _
  | unclosed plain => exact List.nil_sublist _
  | continued ends later ih => exact ih.cons _
  | kept unmarked lone later ih => exact ih.cons_cons _

theorem Leaves.unmarked {line left : List Char} (leaves : Leaves line left) : '%' ∉ left := by
  induction leaves with
  | nil | unclosed plain => exact List.not_mem_nil
  | placeholder plain later ih | continued ends later ih => exact ih
  | kept unmarked lone later ih => exact List.not_mem_cons_of_ne_of_not_mem (Ne.symm unmarked) ih

/-- A text without percent signs and line ends is left as it is. -/
theorem strip_eq_self {text : List Char} (unmarked : '%' ∉ text)
    (unblank : ∀ c ∈ text, Text.isBlank c = false) : strip text = text := by
  induction text with
  | nil => rfl
  | cons c rest ih =>
    rw [List.mem_cons, not_or] at unmarked
    have plain (d : Char) (blank : Text.isBlank d) : rest.head? ≠ some d := fun first => by
      have member := List.mem_cons_of_mem c (List.mem_of_head? first)
      rw [unblank d member] at blank
      cases blank
    rw [strip_kept (Ne.symm unmarked.1),
      ih unmarked.2 fun d member => unblank d (List.mem_cons_of_mem c member)]
    rintro ⟨-, ends⟩
    exact ((startsLineEnd_iff _).mp ends).elim (plain _ (by decide)) (plain _ (by decide))

/-! ### Canonical programs -/

/-- **A text that is a program**: neither blank nor a percent sign is in it. -/
structure Canonical (text : List Char) : Prop where
  filled : text ≠ []
  unblank : ∀ c ∈ text, Text.isBlank c = false
  unmarked : '%' ∉ text

theorem canonical_of_programText? {line program : List Char}
    (found : programText? line = some program) : Canonical program := by
  obtain ⟨blanks, rest, left, -, filled, unblank, -⟩ := (Text.firstWord_eq_some_iff ..).mp found
  refine ⟨filled, unblank, fun member => (leaves_strip line).unmarked ?_⟩
  rw [left]
  exact List.mem_append_right _ (List.mem_append_left _ member)

/-- **The texts that are their own program.** -/
theorem programText?_eq_self_iff (text : List Char) :
    programText? text = some text ↔ Canonical text := by
  refine ⟨canonical_of_programText?, fun canonical => ?_⟩
  rw [programText?, strip_eq_self canonical.unmarked canonical.unblank,
    Text.firstWord_eq_some_iff]
  exact ⟨[], [], by simp, by simp, canonical.filled, canonical.unblank, rfl⟩

theorem sublist_of_programText? {line program : List Char}
    (found : programText? line = some program) : program.Sublist line := by
  obtain ⟨blanks, rest, left, -⟩ := (Text.firstWord_eq_some_iff ..).mp found
  have within : program.Sublist (strip line) := by
    rw [left]
    exact (List.sublist_append_left program rest).trans (List.sublist_append_right blanks _)
  exact within.trans (leaves_strip line).sublist

theorem programText?_eq_none_iff (line : List Char) :
    programText? line = none ↔ ∃ left, Leaves line left ∧ ∀ c ∈ left, Text.isBlank c := by
  rw [programText?, Text.firstWord_eq_none_iff]
  simp [leaves_iff]

theorem program?_eq_some_iff (line program : String) :
    program? line = some program ↔ programText? line.toList = some program.toList := by
  rw [program?, Option.map_eq_some_iff]
  constructor
  · rintro ⟨text, found, rfl⟩
    rw [found, String.toList_ofList]
  · exact fun found => ⟨_, found, String.ofList_toList⟩

theorem program?_eq_none_iff (line : String) :
    program? line = none ↔ programText? line.toList = none :=
  Option.map_eq_none_iff

/-- **Programs are canonical.** The program of a command line is no empty text and holds neither
blanks nor percent signs, its characters are some of those of the line, in the same order, and it is
its own program; so keys are their own keys. There is none just when what the line leaves without
its placeholders and line continuations is blank. -/
theorem program_canonical (line : String) :
    (∀ program, program? line = some program →
        program ≠ "" ∧ (∀ c ∈ program.toList, Text.isBlank c = false ∧ c ≠ '%') ∧
          program.toList.Sublist line.toList ∧ program? program = some program) ∧
      (program? line = none ↔
        ∃ left, Leaves line.toList left ∧ ∀ c ∈ left, Text.isBlank c) ∧
      key (key line) = key line := by
  have own (program : String) (found : program? line = some program) :
      program? program = some program := by
    rw [program?_eq_some_iff] at found ⊢
    exact (programText?_eq_self_iff _).mpr (canonical_of_programText? found)
  refine ⟨fun program found => ?_, ?_, ?_⟩
  · have text := (program?_eq_some_iff ..).mp found
    obtain ⟨filled, unblank, unmarked⟩ := canonical_of_programText? text
    exact ⟨by simpa using filled,
      fun c member => ⟨unblank c member, fun same => unmarked (same ▸ member)⟩,
      sublist_of_programText? text, own program found⟩
  · rw [program?_eq_none_iff, programText?_eq_none_iff]
  · unfold key
    cases found : program? line with
    | none => rw [Option.getD_none, found, Option.getD_none]
    | some program => rw [Option.getD_some, own program found, Option.getD_some]

/-- A backslash stays before a placeholder that hides the end of a line, and goes before one that it
continues. -/
theorem program_canonical_hidden :
    program? "\\%\n%\r %x% vi" = some "\\" ∧ program? "\\" = some "\\" ∧
      Leaves "\\\n %\n vi".toList "\n ".toList ∧ program? "\\\n %\n vi" = none := by
  have found : program? "\\%\n%\r %x% vi" = some "\\" := by decide +kernel
  have left : Leaves "\\\n %\n vi".toList "\n ".toList := (leaves_iff ..).mpr (by decide +kernel)
  exact ⟨found, ((program_canonical _).1 _ found).2.2.2, left,
    (program_canonical _).2.1.mpr ⟨_, left, List.all_eq_true.mp rfl⟩⟩

end LaunchSupervisor.IconCache
