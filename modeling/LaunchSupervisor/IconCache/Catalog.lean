import LaunchSupervisor.Files.Basic
import LaunchSupervisor.IconCache.ActionFile

/-!
**The catalog of icons.** It maps programs to icons, read from the action files of a list of
directories; a program that is found again keeps its position and takes the new icon.

* `put_commands`: putting an icon adds at most one command, at the end.
-/

namespace LaunchSupervisor.IconCache

/-- A catalog, each command once, in the order of their first appearance. -/
abbrev Catalog := List ActionIcon

namespace Catalog

/-- Puts the icon of an action under its command. -/
def put (catalog : Catalog) (action : ActionIcon) : Catalog :=
  if catalog.any (·.command == action.command) then
    catalog.map fun entry => if entry.command = action.command then action else entry
  else catalog ++ [action]

/-- The icon of the first command that resembles the given one. -/
def find? (catalog : Catalog) (command : String) : Option String :=
  (List.find? (fun entry => resembles entry.command command) catalog).map (·.icon)

/-- Whether a file is an action file by its name. -/
def isActionFile (file : Path) : Bool :=
  match file.place.name?.bind Utf8.string? with
  | none => false
  | some name => 4 ≤ name.utf8ByteSize && (".dt".toList).isSuffixOf name.toList

variable {φ : Type} [FileSystem φ]

/-- The actions of a file; a file that cannot be read has none. -/
def actionsOf (files : φ) (file : Path) : List ActionIcon :=
  if isActionFile file && FileSystem.isFile files file then
    match FileSystem.readText files file with
    | .ok text => actions text.toList
    | .error _ => []
  else []

/-- The actions of a directory, file by file in the order of their names. -/
def actionsIn (files : φ) (directory : Path) : List ActionIcon :=
  match FileSystem.list files directory with
  | .ok entries => (Path.sort entries).flatMap (actionsOf files)
  | .error _ => []

/-- The catalog of a list of directories: a command stands where it was first found and has the icon
that was found last. -/
def load (files : φ) (directories : List Path) : Catalog :=
  directories.foldl (fun catalog directory => (actionsIn files directory).foldl put catalog) []

end Catalog

/-! ### Where action files are -/

/-- The directories of the system's action files, each with one directory per language. -/
def systemDirectories : List Path :=
  ["/etc/dt/appconfig/types", "/usr/dt/appconfig/types", "/usr/local/CDE/appconfig/types"].map
    Path.ofString

/-- The directories that are searched for action files, the most personal first. -/
def searchPath (home : Option Path) (language : Option String) : List Path :=
  let personal := (home.map (·.child ".dt/types")).toList
  let languages := language.toList
  personal ++ personal.flatMap (fun types => languages.map types.child) ++
    languages.flatMap (fun language => systemDirectories.map (·.child language)) ++
    systemDirectories.map (·.child "C")

/-! ### What putting does to the commands -/

theorem Catalog.put_commands (catalog : Catalog) (action : ActionIcon) :
    (catalog.put action).map (·.command) =
      if action.command ∈ catalog.map (·.command) then catalog.map (·.command)
      else catalog.map (·.command) ++ [action.command] := by
  unfold put
  by_cases known : action.command ∈ catalog.map (·.command)
  · have found : catalog.any (·.command == action.command) := by
      obtain ⟨entry, member, same⟩ := List.mem_map.mp known
      exact List.any_eq_true.mpr ⟨entry, member, by simpa using same⟩
    rw [if_pos found, if_pos known, List.map_map]
    refine List.map_congr_left fun entry _ => ?_
    simp only [Function.comp]
    split
    · rename_i same
      exact same.symm
    · rfl
  · have absent : catalog.any (·.command == action.command) = false := by
      rw [List.any_eq_false]
      intro entry member same
      exact known (List.mem_map.mpr ⟨entry, member, by simpa using same⟩)
    simp [absent, known]

end LaunchSupervisor.IconCache
