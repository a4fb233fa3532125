import LaunchSupervisor.IconCache.Tool
import LaunchSupervisor.Proofs.Files.LastingDisk
import LaunchSupervisor.Proofs.IconCache.Lookup
import LaunchSupervisor.Proofs.IconCache.Updates

/-!
**What is recorded in one call of the cache tool is shown by a later one.** Every call reads the
store from its file, so the mappings go from call to call by way of the file system. None is lost
there as long as what is recorded is storable and every call that records something succeeds.

* `Holds`: what the store of a directory is read as.
* `Holds.run`: what it is read as after one call.
* `Calls`, `Holds.calls`: after any calls, one after the other.
* `listed_from_nothing`: a user's first calls, on a file system with modes where there is nothing
  yet.
-/

namespace LaunchSupervisor.IconCache

open Lasting (Sound)

/-- A report without children is no news. -/
theorem update_of_unreported {φ : Type} [FileSystem φ] {cache : IconCache} {files : φ}
    {action report : String} (nothing : reported action report = []) :
    cache.update files action report = (.ok false, cache, files) := by
  have none : children report = [] := List.map_eq_nil_iff.mp nothing
  unfold IconCache.update
  rw [none]
  rfl

namespace Tool

/-- The mappings that a call asks to be recorded. -/
def mappings (arguments : List Argument) : List Mapping :=
  match ToolRequest.parse arguments with
  | .ok { task := .update action report, .. } => reported action report
  | _ => []

section

variable {φ : Type} [FileSystem φ] {environment : Environment} {directory : Path}
  {banner : List UInt8} {arguments : List Argument} {entries : List Mapping} {files opening : φ}

/-! ### One call -/

/-- The answer to a report tells whether it was taken in. -/
theorem perform_update (cache : IconCache) (files : φ) (action report : String) :
    ((perform cache files (.update action report)).1.code = 0 ↔
        (cache.update files action report).1.isOk) ∧
      (perform cache files (.update action report)).2 =
        (cache.update files action report).2.2 := by
  simp only [perform]
  generalize cache.update files action report = result
  obtain ⟨outcome, next, after⟩ := result
  cases outcome with
  | error cause => exact ⟨iff_of_false Nat.one_ne_zero Bool.false_ne_true, rfl⟩
  | ok changed => cases changed <;> exact ⟨iff_of_true rfl rfl, rfl⟩

/-- **What a call does to the files**: nothing, unless it takes in a report. -/
theorem run_cases (unlogged : environment.cacheLog = none) (files : φ) (banner : List UInt8)
    (arguments : List Argument) :
    mappings arguments = [] ∧ (run files environment banner arguments).2 = files ∨
      ∃ action report, mappings arguments = reported action report ∧
        run files environment banner arguments =
          perform (load files environment) files (.update action report) := by
  unfold run mappings
  cases ToolRequest.parse arguments with
  | error stop => exact .inl ⟨rfl, rfl⟩
  | ok request =>
    obtain ⟨level, task⟩ := request
    simp only [unlogged, Diagnostics.note]
    cases task with
    | update action report => exact .inr ⟨action, report, rfl, rfl⟩
    | lookup command =>
      refine .inl ⟨rfl, ?_⟩
      simp only [perform]
      cases (load files environment).findIcon command <;> rfl
    | list => exact .inl ⟨rfl, rfl⟩

variable [Lasting φ]

/-- **The store of a directory is read as the given mappings**, from files that are in order. -/
structure Holds (directory : Path) (entries : List Mapping) (files : φ) : Prop where
  sound : Sound files
  entries : (Store.load files (some directory)).entries = entries

/-- A report that was taken in is added to what the store is read as. -/
theorem Holds.update (holds : Holds directory entries files)
    (home : environment.personalDirectory = some directory)
    (held : ∀ entry ∈ entries, entry.Storable) {action report : String}
    (storable : ∀ mapping ∈ reported action report, mapping.Storable)
    (accepted : ((load files environment).update files action report).1.isOk) :
    Holds directory ((reported action report).foldl upsert entries)
      ((load files environment).update files action report).2.2 := by
  have opened := current_opened home holds.sound
  have loaded : (load files environment).store.entries = entries := by
    rw [load, home, holds.entries]
  have after := entries_update opened.kept files action report
  have updated := updated opened.path files action report
  have now := opened.updated updated
  rw [loaded] at after
  generalize (load files environment).update files action report = result
    at accepted after updated now ⊢
  cases updated with
  | same => exact ⟨holds.sound, by rw [← after, loaded, holds.entries]⟩
  | failed => cases accepted
  | saved =>
    refine ⟨now.sound, ?_⟩
    rw [now.filed rfl (by simp), ← after, Store.ofText_text_iff now.kept, after]
    exact fun entry member =>
      (mem_of_mem_foldl_upsert member).elim (held entry) (storable entry)

/-- **What a call has asked to be recorded** is added to what the store is read as. -/
theorem Holds.run (holds : Holds directory entries files)
    (home : environment.personalDirectory = some directory)
    (unlogged : environment.cacheLog = none) (held : ∀ entry ∈ entries, entry.Storable)
    (storable : ∀ mapping ∈ mappings arguments, mapping.Storable)
    (done : mappings arguments ≠ [] → (run files environment banner arguments).1.code = 0) :
    Holds directory ((mappings arguments).foldl upsert entries)
      (run files environment banner arguments).2 := by
  obtain ⟨nothing, same⟩ | ⟨action, report, asked, course⟩ :=
    run_cases unlogged files banner arguments
  · rwa [nothing, same]
  · obtain ⟨answer, left⟩ := perform_update (load files environment) files action report
    rw [asked] at done storable ⊢
    rw [course, left]
    refine holds.update home held storable ?_
    by_cases nothing : reported action report = []
    · rw [update_of_unreported nothing]
      rfl
    · exact answer.mp (course ▸ done nothing)

/-! ### One call after the other -/

/-- **Calls of the tool, one after the other**, and the files they leave. Each that has something
to record succeeds. -/
inductive Calls (environment : Environment) (opening : φ) :
    List (List Argument) → φ → Prop where
  | none : Calls environment opening [] opening
  | call {calls : List (List Argument)} {files : φ}
    (earlier : Calls environment opening calls files)
    {banner : List UInt8} {arguments : List Argument}
    (done : mappings arguments ≠ [] → (run files environment banner arguments).1.code = 0) :
    Calls environment opening (calls ++ [arguments]) (run files environment banner arguments).2

/-- **What the store is read as after calls**: all that they have asked to be recorded is there, as
if it had been recorded in one store. -/
theorem Holds.calls (holds : Holds directory entries opening)
    (home : environment.personalDirectory = some directory)
    (unlogged : environment.cacheLog = none) (held : ∀ entry ∈ entries, entry.Storable)
    {calls : List (List Argument)} (made : Calls environment opening calls files)
    (storable : ∀ mapping ∈ calls.flatMap mappings, mapping.Storable) :
    Holds directory ((calls.flatMap mappings).foldl upsert entries) files := by
  induction made with
  | none => exact holds
  | @call calls files earlier banner arguments done ih =>
    rw [List.flatMap_append, List.flatMap_singleton] at storable ⊢
    rw [List.foldl_append]
    have before (mapping : Mapping) (member : mapping ∈ calls.flatMap mappings) :
        mapping.Storable :=
      storable mapping (List.mem_append_left _ member)
    refine (ih before).run home unlogged (fun entry member => ?_)
      (fun mapping member => storable mapping (List.mem_append_right _ member)) done
    exact (mem_of_mem_foldl_upsert member).elim (held entry) (before entry)

end

/-- The listing shows the store as it is read. -/
theorem listed {φ : Type} [FileSystem φ] {files : φ} {environment : Environment}
    {banner : List UInt8} {arguments : List Argument} {level : Option LogLevel}
    (unlogged : environment.cacheLog = none)
    (asked : ToolRequest.parse arguments = .ok { level, task := .list }) :
    (run files environment banner arguments).1 =
      { output := String.join
          ((Store.load files environment.personalDirectory).entries.map mappingLine) } := by
  simp [run, asked, unlogged, Diagnostics.note, perform, load]

/-- **A user's first calls.** On a file system where there is nothing yet, whatever they asked to be
recorded is listed after them, a program in the place where it was recorded first and with the
action recorded last. -/
theorem listed_from_nothing {environment : Environment} {directory : Path}
    (home : environment.personalDirectory = some directory)
    (unlogged : environment.cacheLog = none) {calls : List (List Argument)} {disk : Disk}
    (made : Calls environment Disk.empty calls disk)
    (storable : ∀ mapping ∈ calls.flatMap mappings, mapping.Storable) {banner : List UInt8}
    {arguments : List Argument} {level : Option LogLevel}
    (asked : ToolRequest.parse arguments = .ok { level, task := .list }) :
    (run disk environment banner arguments).1 =
      { output := String.join (((calls.flatMap mappings).foldl upsert []).map mappingLine) } := by
  have nothing : Holds directory [] Disk.empty := by
    obtain ⟨cause, unread⟩ := Disk.readText_empty (directory.child Store.fileName)
    have absent : FileSystem.readText Disk.empty (directory.child Store.fileName) = .error cause :=
      unread
    refine ⟨Disk.orderly_empty, ?_⟩
    rw [Store.load_eq, Store.fileText, absent]
    rfl
  have held := nothing.calls home unlogged (List.forall_mem_nil _) made storable
  rw [listed unlogged asked, home, held.entries]

end Tool

end LaunchSupervisor.IconCache
