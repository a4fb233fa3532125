import LaunchSupervisor.Files.Tree
import LaunchSupervisor.IconCache.Catalog
import Mathlib.Data.List.Induction
import Mathlib.Data.List.Nodup

/-!
**Which icon a program has in the catalog.** The directories are read in the order of the search
path, the most personal first, and what is defined later replaces what was defined before. So a
program stands where it was first defined, but its icon is the one that is defined last, in the
least personal directory that defines one.

* `Defines`: what it is for a directory to define an action.
* `commands_foldl_put`: the programs stand in the order in which they were first put.
* `mem_foldl_put_iff`: what a catalog holds was put last.
* `icon_of_last_definition`: both, and when the icon is one of the most personal directory.
-/

namespace LaunchSupervisor.IconCache.Catalog

/-! ### Definitions -/

variable {φ : Type} [FileSystem φ]

/-- **An action is defined in a directory**: it is one of those in an action file there that can be
read. -/
inductive Defines (files : φ) (directory : Path) (action : ActionIcon) : Prop where
  | intro {entries : List Path} {file : Path} {text : String}
      (listed : FileSystem.list files directory = .ok entries) (among : file ∈ entries)
      (named : isActionFile file) (plain : FileSystem.isFile files file)
      (read : FileSystem.readText files file = .ok text) (found : action ∈ actions text.toList)

theorem mem_actionsOf_iff {files : φ} {file : Path} {action : ActionIcon} :
    action ∈ actionsOf files file ↔ isActionFile file ∧ FileSystem.isFile files file ∧
      ∃ text, FileSystem.readText files file = .ok text ∧ action ∈ actions text.toList := by
  unfold actionsOf
  split
  · rename_i usable
    rw [Bool.and_eq_true] at usable
    cases FileSystem.readText files file <;> simp [usable]
  · rename_i unusable
    refine iff_of_false List.not_mem_nil fun ⟨named, plain, _⟩ => unusable ?_
    rw [named, plain]
    rfl

/-- The actions of a directory are those that it defines. -/
theorem mem_actionsIn_iff {files : φ} {directory : Path} {action : ActionIcon} :
    action ∈ actionsIn files directory ↔ Defines files directory action := by
  unfold actionsIn
  constructor
  · intro member
    split at member
    · rename_i entries listed
      obtain ⟨file, among, holds⟩ := List.mem_flatMap.mp member
      obtain ⟨named, plain, text, read, found⟩ := mem_actionsOf_iff.mp holds
      exact .intro listed (List.mem_mergeSort.mp among) named plain read found
    · exact absurd member List.not_mem_nil
  · rintro ⟨listed, among, named, plain, read, found⟩
    rw [listed]
    exact List.mem_flatMap.mpr ⟨_, List.mem_mergeSort.mpr among,
      mem_actionsOf_iff.mpr ⟨named, plain, _, read, found⟩⟩

/-- The actions that are defined in directories, in the order in which they are read. -/
def definitions (files : φ) (directories : List Path) : List ActionIcon :=
  directories.flatMap (actionsIn files)

theorem definitions_append (files : φ) (earlier later : List Path) :
    definitions files (earlier ++ later) = definitions files earlier ++ definitions files later :=
  List.flatMap_append

theorem mem_definitions_iff {files : φ} {directories : List Path} {action : ActionIcon} :
    action ∈ definitions files directories ↔
      ∃ directory ∈ directories, Defines files directory action := by
  simp only [definitions, List.mem_flatMap, mem_actionsIn_iff]

theorem load_eq (files : φ) (directories : List Path) :
    load files directories = (definitions files directories).foldl put [] :=
  List.foldl_flatMap.symm

/-! ### The programs -/

theorem nodup_put {catalog : Catalog} (distinct : (catalog.map (·.command)).Nodup)
    (action : ActionIcon) : ((catalog.put action).map (·.command)).Nodup := by
  rw [put_commands]
  split
  · exact distinct
  · rename_i absent
    rw [← List.concat_eq_append]
    exact distinct.concat absent

/-- A catalog that is put together has no program twice. -/
theorem nodup_foldl_put (defined : List ActionIcon) :
    ((defined.foldl put []).map (·.command)).Nodup := by
  induction defined using List.reverseRecOn with
  | nil => exact List.nodup_nil
  | append_singleton earlier action ih =>
    rw [List.foldl_append, List.foldl_cons, List.foldl_nil]
    exact nodup_put ih action

/-- What comes at the end is kept if it did not come before. -/
theorem eraseDups_concat {α : Type} [DecidableEq α] (list : List α) (element : α) :
    (list ++ [element]).eraseDups =
      if element ∈ list then list.eraseDups else list.eraseDups ++ [element] := by
  rw [List.eraseDups_append, List.removeAll]
  split
  · rename_i there
    simp [there]
  · rename_i absent
    simp [absent, List.eraseDups_cons]

/-- The programs of a catalog stand in the order in which they were first put. -/
theorem commands_foldl_put (defined : List ActionIcon) :
    (defined.foldl put []).map (·.command) = (defined.map (·.command)).eraseDups := by
  induction defined using List.reverseRecOn with
  | nil => rfl
  | append_singleton earlier action ih =>
    rw [List.foldl_append, List.foldl_cons, List.foldl_nil, put_commands, ih, List.map_append,
      List.map_singleton, eraseDups_concat]
    simp only [List.mem_eraseDups]

/-! ### The icons -/

/-- The action that comes last for a program. -/
def last? (defined : List ActionIcon) (command : String) : Option ActionIcon :=
  defined.reverse.find? (·.command = command)

theorem last?_append (earlier later : List ActionIcon) (command : String) :
    last? (earlier ++ later) command = (last? later command).or (last? earlier command) := by
  rw [last?, List.reverse_append, List.find?_append]
  rfl

theorem last?_eq_none_iff {defined : List ActionIcon} {command : String} :
    last? defined command = none ↔ ∀ icon, ⟨command, icon⟩ ∉ defined := by
  rw [last?, List.find?_eq_none]
  constructor
  · intro absent icon member
    exact absent _ (List.mem_reverse.mpr member) (decide_eq_true rfl)
  · rintro absent ⟨name, icon⟩ member same
    obtain rfl : name = command := of_decide_eq_true same
    exact absent icon (List.mem_reverse.mp member)

theorem command_of_last? {defined : List ActionIcon} {command : String} {action : ActionIcon}
    (last : last? defined command = some action) : action.command = command := by
  rw [last?] at last
  simpa using List.find?_some last

theorem mem_of_last? {defined : List ActionIcon} {command : String} {action : ActionIcon}
    (last : last? defined command = some action) : action ∈ defined :=
  List.mem_reverse.mp (List.mem_of_find?_eq_some last)

/-- Putting an icon leaves those of the other programs, and no other one for its own. -/
theorem mem_put_iff {catalog : Catalog} {action entry : ActionIcon} :
    entry ∈ catalog.put action ↔
      entry = action ∨ entry ∈ catalog ∧ entry.command ≠ action.command := by
  unfold put
  split
  · rename_i known
    obtain ⟨held, member, same⟩ := List.any_eq_true.mp known
    rw [beq_iff_eq] at same
    rw [List.mem_map]
    constructor
    · rintro ⟨former, there, rfl⟩
      split
      · exact .inl rfl
      · rename_i differs
        exact .inr ⟨there, differs⟩
    · rintro (rfl | ⟨there, differs⟩)
      · exact ⟨held, member, if_pos same⟩
      · exact ⟨entry, there, if_neg differs⟩
  · rename_i unknown
    rw [List.any_eq_true] at unknown
    rw [List.mem_append, List.mem_singleton, or_comm]
    refine or_congr_right (and_iff_left_of_imp fun there same => unknown ?_).symm
    exact ⟨entry, there, beq_iff_eq.mpr same⟩

/-- **A catalog holds what was put last.** -/
theorem mem_foldl_put_iff {defined : List ActionIcon} {entry : ActionIcon} :
    entry ∈ defined.foldl put [] ↔ last? defined entry.command = some entry := by
  induction defined using List.reverseRecOn with
  | nil => simp [last?]
  | append_singleton earlier action ih =>
    rw [List.foldl_append, List.foldl_cons, List.foldl_nil, mem_put_iff, ih, last?_append]
    by_cases same : action.command = entry.command
    · have newest : last? [action] entry.command = some action :=
        List.find?_cons_of_pos (decide_eq_true same)
      rw [newest, Option.some_or, Option.some_inj]
      constructor
      · rintro (rfl | older)
        · rfl
        · exact absurd same.symm older.2
      · exact fun equal => .inl equal.symm
    · have other : last? [action] entry.command = none :=
        List.find?_cons_of_neg (by simpa using same)
      rw [other, Option.none_or]
      constructor
      · rintro (rfl | older)
        · exact absurd rfl same
        · exact older.1
      · exact fun last => .inr ⟨last, Ne.symm same⟩

/-! ### The most personal directory -/

/-- Where a directory defines an action for a program, one of its own counts unless a later
directory defines one as well. -/
theorem last?_definitions_cons {files : φ} {directory : Path} {command : String}
    (defined : ∃ icon, Defines files directory ⟨command, icon⟩) (after : List Path) :
    ∃ own, Defines files directory own ∧ own.command = command ∧
      last? (definitions files (directory :: after)) command =
        (last? (definitions files after) command).or (some own) := by
  obtain ⟨icon, defined⟩ := defined
  have present : last? (actionsIn files directory) command ≠ none := fun absent =>
    last?_eq_none_iff.mp absent icon (mem_actionsIn_iff.mpr defined)
  obtain ⟨own, last⟩ := Option.ne_none_iff_exists'.mp present
  refine ⟨own, mem_actionsIn_iff.mp (mem_of_last? last), command_of_last? last, ?_⟩
  rw [definitions, List.flatMap_cons, last?_append, last, ← definitions]

theorem last?_definitions_eq_none {files : φ} {before : List Path} {command : String}
    (undefined : ∀ directory ∈ before, ∀ icon,
      ¬Defines files directory ⟨command, icon⟩) :
    last? (definitions files before) command = none := by
  refine last?_eq_none_iff.mpr fun icon member => ?_
  obtain ⟨directory, there, defined⟩ := mem_definitions_iff.mp member
  exact undefined directory there icon defined

/-- **The definition that is read last gives a program its icon.** No program is in the catalog
twice, and the programs stand in the order of their first definitions. But the icon of each is that
of its last definition: the catalog has an icon of the first directory that defines one just if none
of the directories after it defines one, or what they define last is defined in that directory as
well. -/
theorem icon_of_last_definition (files : φ) (directories : List Path) :
    ((load files directories).map (·.command)).Nodup ∧
      (load files directories).map (·.command) =
        ((definitions files directories).map (·.command)).eraseDups ∧
      (∀ entry, entry ∈ load files directories ↔
        last? (definitions files directories) entry.command = some entry) ∧
      ∀ before directory after command, directories = before ++ directory :: after →
        (∀ earlier ∈ before, ∀ icon, ¬Defines files earlier ⟨command, icon⟩) →
        (∃ icon, Defines files directory ⟨command, icon⟩) →
        ((∃ icon, ⟨command, icon⟩ ∈ load files directories ∧
            Defines files directory ⟨command, icon⟩) ↔
          ∀ last, last? (definitions files after) command = some last →
            Defines files directory last) := by
  have held (entry : ActionIcon) : entry ∈ load files directories ↔
      last? (definitions files directories) entry.command = some entry := by
    rw [load_eq, mem_foldl_put_iff]
  refine ⟨load_eq files directories ▸ nodup_foldl_put _,
    load_eq files directories ▸ commands_foldl_put _, held, ?_⟩
  rintro before directory after command rfl undefined defined
  obtain ⟨own, within, same, last⟩ := last?_definitions_cons defined after
  have deciding : last? (definitions files (before ++ directory :: after)) command =
      (last? (definitions files after) command).or (some own) := by
    rw [definitions_append, last?_append, last?_definitions_eq_none undefined, last,
      Option.or_none]
  simp only [held, deciding]
  cases later : last? (definitions files after) command with
  | none =>
    obtain ⟨_, icon⟩ := own
    obtain rfl := same
    exact iff_of_true ⟨icon, rfl, within⟩ nofun
  | some latest =>
    obtain ⟨_, icon⟩ := latest
    obtain rfl := command_of_last? later
    constructor
    · rintro ⟨_, ⟨⟩, there⟩ _ ⟨⟩
      exact there
    · exact fun there => ⟨icon, rfl, there _ rfl⟩

/-- The text of an action. -/
def actionText (command icon : String) : String :=
  "ACTION Start\n\x7b\nEXEC_STRING " ++ command ++ "\nICON " ++ icon ++ "\n\x7d\n"

/-- The files of a user who has another icon for `vi` than the system, and the same for `xterm`. -/
def customized : Tree :=
  (Tree.empty.addFile (.ofString "/home/u/.dt/types/own.dt")
    (Utf8.bytes (actionText "vi" "Mine" ++ actionText "xterm" "Term"))).addFile
    (.ofString "/usr/dt/appconfig/types/C/all.dt")
    (Utf8.bytes (actionText "vi" "Plain" ++ actionText "xterm" "Term"))

/-- Where the user's own action files are. -/
def personalTypes : Path := .child (.ofString "/home/u") ".dt/types"

/-- Where the system's action files are, for every language. -/
def systemTypes : List Path := systemDirectories.map (·.child "C")

theorem actionsIn_personalTypes :
    actionsIn customized personalTypes = [⟨"vi", "Mine"⟩, ⟨"xterm", "Term"⟩] := by
  decide +kernel

theorem definitions_systemTypes :
    definitions customized systemTypes = [⟨"vi", "Plain"⟩, ⟨"xterm", "Term"⟩] := by
  decide +kernel

/-- The icon is the user's own where the system has the same. -/
theorem icon_of_same_definition :
    Defines customized personalTypes ⟨"xterm", "Term"⟩ ∧
      last? (definitions customized systemTypes) "xterm" = some ⟨"xterm", "Term"⟩ ∧
      ∃ icon, ⟨"xterm", icon⟩ ∈ load customized (personalTypes :: systemTypes) ∧
        Defines customized personalTypes ⟨"xterm", icon⟩ := by
  have defined : Defines customized personalTypes ⟨"xterm", "Term"⟩ := by
    rw [← mem_actionsIn_iff, actionsIn_personalTypes]
    decide
  have last : last? (definitions customized systemTypes) "xterm" = some ⟨"xterm", "Term"⟩ := by
    rw [definitions_systemTypes]
    decide
  refine ⟨defined, last, ?_⟩
  obtain ⟨-, -, -, own⟩ := icon_of_last_definition customized (personalTypes :: systemTypes)
  refine (own [] personalTypes systemTypes "xterm" rfl nofun ⟨_, defined⟩).mpr ?_
  intro latest there
  obtain rfl := Option.some_inj.mp (last.symm.trans there)
  exact defined

/-- **The system's icon replaces the user's own.** The user's directory comes first on the search
path and defines an icon for `vi`, but what the catalog has is not defined there. -/
theorem own_icon_replaced :
    searchPath (some (.ofString "/home/u")) none = personalTypes :: systemTypes ∧
      Defines customized personalTypes ⟨"vi", "Mine"⟩ ∧
      (∃ system ∈ systemTypes, Defines customized system ⟨"vi", "Plain"⟩) ∧
      ⟨"vi", "Plain"⟩ ∈ load customized (personalTypes :: systemTypes) ∧
      ¬∃ icon, ⟨"vi", icon⟩ ∈ load customized (personalTypes :: systemTypes) ∧
        Defines customized personalTypes ⟨"vi", icon⟩ := by
  have loaded : load customized (personalTypes :: systemTypes) =
      [⟨"vi", "Plain"⟩, ⟨"xterm", "Term"⟩] := by
    rw [load_eq, definitions, List.flatMap_cons, actionsIn_personalTypes, ← definitions,
      definitions_systemTypes]
    decide
  have own (action : ActionIcon) : Defines customized personalTypes action ↔
      action ∈ [⟨"vi", "Mine"⟩, ⟨"xterm", "Term"⟩] := by
    rw [← mem_actionsIn_iff, actionsIn_personalTypes]
  rw [loaded, own, ← mem_definitions_iff, definitions_systemTypes]
  refine ⟨rfl, by decide, by decide, by decide, ?_⟩
  rintro ⟨icon, there, within⟩
  rw [own] at within
  have replaced : icon = "Plain" := by simpa using there
  have defined : icon = "Mine" := by simpa using within
  exact absurd (replaced.symm.trans defined) (by decide)

end LaunchSupervisor.IconCache.Catalog
