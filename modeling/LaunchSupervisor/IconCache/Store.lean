import LaunchSupervisor.Files.Basic
import LaunchSupervisor.IconCache.Command
import LaunchSupervisor.Text.Lines

/-!
**The store of mappings.** Which program was started by which action, oldest first, at most
`capacity` of them, each program once. The store is kept in a file of one line per mapping, a tab
between program and action.

* `upsert_commands_known`, `upsert_commands_fresh`: what recording a mapping does to the programs.
* `length_upsert_le`: the store stays within its capacity.
-/

namespace LaunchSupervisor.IconCache

/-- A program and the action that started it. -/
structure Mapping where
  command : String
  action : String
deriving DecidableEq

/-- The most mappings a store holds. -/
def capacity : Nat := 256

/-- The mappings, the oldest left out when there are too many. -/
def boundedTail (entries : List Mapping) : List Mapping :=
  if entries.length > capacity then entries.tail else entries

/-- Whether a program has a mapping. -/
def known (entries : List Mapping) (command : String) : Bool :=
  entries.any (·.command == command)

/-- The mappings with one recorded: a known program keeps its position, a new one goes to the
end. -/
def upsert (entries : List Mapping) (mapping : Mapping) : List Mapping :=
  if known entries mapping.command then
    entries.map fun entry => if entry.command = mapping.command then mapping else entry
  else boundedTail (entries ++ [mapping])

/-- The store of mappings. -/
structure Store where
  /-- The file that keeps it; none if it lives in memory alone. -/
  path : Option Path
  entries : List Mapping
  /-- Whether it has changed since it was read or saved. -/
  dirty : Bool
deriving DecidableEq

/-- Why a store could not be saved. -/
inductive SaveError where
  | makingDirectory (directory : Path) (cause : FileError)
  | writing (draft : Path) (cause : FileError)
  | renaming (draft : Path) (cause : FileError)
  | restricting (cause : FileError)
deriving DecidableEq

namespace SaveError

/-- What failed, in a few words. -/
def summary : SaveError → String
  | .makingDirectory directory _ => "creating " ++ directory.display
  | .writing draft _ => "writing " ++ draft.display
  | .renaming draft _ => "renaming " ++ draft.display ++ " into place"
  | .restricting cause => cause.summary

/-- The failure behind it. -/
def cause : SaveError → FileError
  | .makingDirectory _ cause => cause
  | .writing _ cause => cause
  | .renaming _ cause => cause
  | .restricting cause => cause

/-- The whole report. -/
def message : SaveError → String
  | .restricting cause => cause.message
  | error => error.summary ++ ": " ++ error.cause.message

/-- What failed and why, from the outside in. -/
def causes : SaveError → List String
  | .restricting cause => cause.causes
  | error => error.summary :: error.cause.causes

end SaveError

namespace Store

/-- The name of the file that keeps a store. -/
def fileName : String := "action-icon-cache"

/-- An empty store, to be kept in a directory. -/
def empty (directory : Option Path) : Store :=
  { path := directory.map (·.child fileName), entries := [], dirty := false }

/-- Records that an action started a program; tells whether that was news. -/
def insert (store : Store) (command action : String) : Bool × Store :=
  if store.entries.contains ⟨command, action⟩ then (false, store)
  else (true, { store with entries := upsert store.entries ⟨command, action⟩, dirty := true })

/-- The action of the first program that resembles the given one. -/
def find? (store : Store) (command : String) : Option String :=
  (store.entries.find? fun entry => resembles entry.command command).map (·.action)

/-! ### The file -/

/-- The mapping on a line: a program, a tab and an action, neither empty. -/
def mapping? (line : List Char) : Option Mapping :=
  match Text.splitFirst '\t' line with
  | none => none
  | some (command, action) =>
    if command.isEmpty || action.isEmpty then none
    else some ⟨.ofList command, .ofList action⟩

/-- The mappings of a text, as if they had been recorded one after the other. -/
def ofText (text : List Char) : List Mapping :=
  ((Text.lines text).filterMap mapping?).foldl upsert []

/-- The line of a mapping. -/
def line (mapping : Mapping) : List Char :=
  mapping.command.toList ++ '\t' :: mapping.action.toList ++ ['\n']

/-- The text of a list of mappings. -/
def text (entries : List Mapping) : List Char :=
  entries.flatMap line

variable {φ : Type} [FileSystem φ]

/-- The store kept in a directory; empty if there is no file that can be read. -/
def load (files : φ) (directory : Option Path) : Store :=
  let store := empty directory
  match store.path with
  | none => store
  | some path =>
    match FileSystem.readText files path with
    | .ok text => { store with entries := ofText text.toList }
    | .error _ => store

/-- The file that is written before it takes the place of the old one. -/
def draft (path : Path) : Path :=
  path.extend ".tmp"

/-- The directory of a path exists after this, or the saving has failed. -/
def prepare (files : φ) (path : Path) : Except SaveError Unit × φ :=
  match path.parent? with
  | none => (.ok (), files)
  | some directory =>
    match FileSystem.makeDirectory files directory with
    | (.ok (), files) => (.ok (), files)
    | (.error cause, files) => (.error (.makingDirectory directory cause), files)

/-- Puts the draft in the place of the file; a draft that cannot be moved is removed. -/
def replace (files : φ) (path : Path) : Except SaveError Unit × φ :=
  match FileSystem.rename files (draft path) path with
  | (.ok (), files) => (.ok (), files)
  | (.error cause, files) =>
    (.error (.renaming (draft path) cause), (FileSystem.remove files (draft path)).2)

/-- Writes mappings to a file, by way of a draft, and gives the file to its owner alone. -/
def writeTo (files : φ) (path : Path) (entries : List Mapping) : Except SaveError Unit × φ :=
  match prepare files path with
  | (.error error, files) => (.error error, files)
  | (.ok (), files) =>
    match FileSystem.write files (draft path) (Utf8.encode (text entries)) with
    | (.error cause, files) => (.error (.writing (draft path) cause), files)
    | (.ok (), files) =>
      match replace files path with
      | (.error error, files) => (.error error, files)
      | (.ok (), files) =>
        match FileSystem.restrict files path with
        | (.error cause, files) => (.error (.restricting cause), files)
        | (.ok (), files) => (.ok (), files)

/-- Saves a store that has changed and holds anything; tells whether a file was written. -/
def save (store : Store) (files : φ) : Except SaveError Bool × Store × φ :=
  if ¬ store.dirty ∨ store.entries = [] then (.ok false, store, files)
  else
    match store.path with
    | none => (.ok false, store, files)
    | some path =>
      match writeTo files path store.entries with
      | (.error error, files) => (.error error, store, files)
      | (.ok (), files) => (.ok true, { store with dirty := false }, files)

end Store

/-! ### What recording does -/

theorem known_iff (entries : List Mapping) (command : String) :
    known entries command ↔ command ∈ entries.map (·.command) := by
  simp [known]

theorem upsert_commands_known {entries : List Mapping} {mapping : Mapping}
    (present : known entries mapping.command) :
    (upsert entries mapping).map (·.command) = entries.map (·.command) := by
  rw [upsert, if_pos present, List.map_map]
  refine List.map_congr_left fun entry _ => ?_
  simp only [Function.comp]
  split
  · rename_i same
    exact same.symm
  · rfl

theorem upsert_commands_fresh {entries : List Mapping} {mapping : Mapping}
    (absent : known entries mapping.command = false) :
    upsert entries mapping = boundedTail (entries ++ [mapping]) := by
  simp [upsert, absent]

theorem length_upsert_le {entries : List Mapping} (mapping : Mapping)
    (bound : entries.length ≤ capacity) : (upsert entries mapping).length ≤ capacity := by
  unfold upsert boundedTail
  split
  · simpa using bound
  · split
    · simpa using bound
    · omega

end LaunchSupervisor.IconCache
