import LaunchSupervisor.IconCache.Basic
import LaunchSupervisor.Proofs.IconCache.FileFormat
import LaunchSupervisor.Proofs.ProcessTree
import LaunchSupervisor.Proofs.Text.Lines

/-!
**A report as it is read by the icon cache.** The commands of a list are sent one on each line, and
the icon cache reads the lines that are not empty. A command is any program's own idea of its name,
so it may hold the end of a line.

* `children_join`: each command is read for itself, as the lines it consists of.
* `children_join_eq_commands_iff`: the list comes through exactly if no command holds a line feed
  and none but the last ends with a carriage return.
-/

namespace LaunchSupervisor.IconCache

theorem children_toList (report : String) :
    (children report).map String.toList = Text.filledLines report.toList := by
  simp [children, Function.comp_def]

theorem children_inj {report : String} {commands : List String} :
    children report = commands ↔ Text.filledLines report.toList = commands.map String.toList := by
  rw [← children_toList]
  exact (List.map_injective_iff.mpr fun _ _ => String.toList_inj.mp).eq_iff.symm

/-- **Each command is read for itself**: as the lines it consists of, those but the last as if they
were closed. -/
theorem children_join {list : CommandList} {commands : List String} {last : String}
    (listed : list.commands = commands ++ [last]) :
    children list.join =
      commands.flatMap (fun command => children (command ++ "\n")) ++ children last := by
  rw [children_inj, CommandList.join, listed, String.toList_ofList, Text.filledLines,
    List.map_append, List.map_singleton, Text.lines_joinLines_concat, List.filter_append,
    List.map_append, children_toList, List.map_flatMap, List.filter_flatMap, List.flatMap_map]
  simp only [children_toList, Text.filledLines, String.toList_append]
  rfl

/-! ### What comes of a command in one line -/

/-- What is read of a command in one line that another follows: a carriage return at its end is
taken for part of the line end, and nothing may be left. -/
def arriving? (command : List Char) : Option (List Char) :=
  let line := Text.closeLine command.reverse
  if line.isEmpty then none else some line

theorem filledLines_closed {command : List Char} (plain : '\n' ∉ command) :
    Text.filledLines (command ++ ['\n']) = (arriving? command).toList := by
  rw [Text.filledLines, Text.lines_append_newline _ _ plain, Text.lines_nil, arriving?]
  by_cases empty : (Text.closeLine command.reverse).isEmpty <;> simp [empty]

theorem arriving?_eq_self_iff {command : List Char} (filled : command ≠ []) :
    arriving? command = some command ↔ command.getLast? ≠ some '\r' := by
  rw [arriving?, Text.closeLine_reverse]
  by_cases returned : command.getLast? = some '\r'
  · have shorter : command.dropLast ≠ command := fun same => by
      have lengths := congrArg List.length same
      have long := List.length_pos_iff.mpr filled
      rw [List.length_dropLast] at lengths
      omega
    simp [returned, shorter]
  · simp [returned, filled]

/-- Commands that are read for themselves are read as they are if none ends with a carriage
return. -/
theorem flatMap_filledLines_eq_self_iff {commands : List (List Char)}
    (filled : ∀ command ∈ commands, command ≠ [])
    (plain : ∀ command ∈ commands, '\n' ∉ command) :
    commands.flatMap (fun command => Text.filledLines (command ++ ['\n'])) = commands ↔
      ∀ command ∈ commands, command.getLast? ≠ some '\r' := by
  have single : commands.flatMap (fun command => Text.filledLines (command ++ ['\n'])) =
      commands.filterMap arriving? := by
    rw [List.filterMap_eq_flatMap_toList]
    exact List.flatMap_congr fun command listed => filledLines_closed (plain command listed)
  rw [single, Store.filterMap_eq_self_iff]
  exact forall₂_congr fun command listed => arriving?_eq_self_iff (filled command listed)

/-! ### The list that comes through -/

theorem newline_not_mem_children {report command : String} (read : command ∈ children report) :
    '\n' ∉ command.toList := by
  obtain ⟨line, member, rfl⟩ := List.mem_map.mp read
  rw [String.toList_ofList]
  exact Text.newline_not_mem_lines (List.mem_filter.mp member).1

/-- Commands in one line each come through unless a carriage return is lost. -/
theorem children_join_iff_of_plain {list : CommandList} {commands : List String} {last : String}
    (listed : list.commands = commands ++ [last])
    (filled : ∀ command ∈ list.commands, command.toList ≠ [])
    (plain : ∀ command ∈ list.commands, '\n' ∉ command.toList) :
    children list.join = list.commands ↔
      ∀ command ∈ commands, command.toList.getLast? ≠ some '\r' := by
  have lastly : children last = [last] := by
    have whole :=
      Text.lines_leftOpen (filled last (by simp [listed])) (plain last (by simp [listed]))
    rw [children_inj, Text.filledLines, whole]
    simpa using filled last (by simp [listed])
  have apart := @flatMap_filledLines_eq_self_iff (commands.map String.toList)
    (by simpa using fun command member => filled command (by simp [listed, member]))
    (by simpa using fun command member => plain command (by simp [listed, member]))
  rw [children_join listed, lastly, listed, List.append_left_inj]
  rw [List.forall_mem_map] at apart
  rw [← apart, ← (List.map_injective_iff.mpr fun _ _ => String.toList_inj.mp).eq_iff,
    List.map_flatMap, List.flatMap_map]
  simp only [children_toList, String.toList_append]
  rfl

theorem ne_nil_of_mem_ofCommands {names : List String} {command : String}
    (listed : command ∈ (CommandList.ofCommands names).commands) : command.toList ≠ [] := by
  rw [CommandList.commands_ofCommands, List.mem_eraseDups, List.mem_filter] at listed
  simpa using listed.2

/-- **A list of commands comes through exactly if** no command holds a line feed and none but the
last ends with a carriage return. In any case each command is read for itself, as the lines it
consists of, whatever programs call themselves. -/
theorem children_join_eq_commands_iff (names : List String) :
    let list := CommandList.ofCommands names
    children list.join =
        list.commands.dropLast.flatMap (fun command => children (command ++ "\n")) ++
          list.commands.getLast?.toList.flatMap children ∧
      (children list.join = list.commands ↔
        (∀ command ∈ list.commands, '\n' ∉ command.toList) ∧
          ∀ command ∈ list.commands.dropLast, command.toList.getLast? ≠ some '\r') := by
  intro list
  have filled : ∀ command ∈ list.commands, command.toList ≠ [] :=
    fun _ => ne_nil_of_mem_ofCommands
  rcases List.eq_nil_or_concat list.commands with nothing | ⟨commands, last, listed⟩
  · have silent : children list.join = [] := by
      rw [CommandList.join, nothing]
      rfl
    simp [silent, nothing]
  · rw [List.concat_eq_append] at listed
    have start : list.commands.dropLast = commands := by rw [listed, List.dropLast_concat]
    have final : list.commands.getLast? = some last := by rw [listed, List.getLast?_concat]
    rw [start, final]
    refine ⟨by simpa using children_join listed, fun same => ?_,
      fun ⟨plain, unreturned⟩ => ?_⟩
    · have plain : ∀ command ∈ list.commands, '\n' ∉ command.toList := fun command member =>
        newline_not_mem_children (same.symm ▸ member)
      exact ⟨plain, (children_join_iff_of_plain listed filled plain).mp same⟩
    · exact (children_join_iff_of_plain listed filled plain).mpr unreturned

/-- A carriage return at the end of a command is lost, so that the program is remembered under
another name; and a command with a line feed is read as two. -/
theorem children_join_misread :
    let returned := CommandList.ofCommands ["%x%\r", "b"]
    let broken := CommandList.ofCommands ["a\nb"]
    returned.commands = ["%x%\r", "b"] ∧ children returned.join = ["%x%", "b"] ∧
      (insertAll (.empty none) "vi" (children returned.join)).2.entries ≠
        (insertAll (.empty none) "vi" returned.commands).2.entries ∧
      broken.commands = ["a\nb"] ∧ children broken.join = ["a", "b"] := by
  decide +kernel

end LaunchSupervisor.IconCache
