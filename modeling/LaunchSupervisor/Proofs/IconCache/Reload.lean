import LaunchSupervisor.Proofs.Files.LastingDisk
import LaunchSupervisor.Proofs.IconCache.FileFormat
import Mathlib

/-!
**A store is read back from where it was saved.** Saving goes by way of a draft that is moved into
place, so once all of that has succeeded the file holds the text of the store's mappings; and that
text is read as these mappings if each of them is storable.

* `writeTo_course`: at which steps writing can break off.
* `writeTo_spec`: what the file holds after it was written.
* `load_save`: what a store is read as after it was saved.
* `reload_of_save`: storable mappings come back, in their order.
-/

namespace LaunchSupervisor.IconCache.Store

open Lasting (Sound)

section

variable {φ : Type} [FileSystem φ] {files : φ}

/-! ### Where writing can break off -/

/-- **How writing to a file goes**, with what comes of it: it breaks off at one of its steps or
comes to its end. -/
inductive Course (files : φ) (path : Path) (contents : List UInt8) :
    Except SaveError Unit × φ → Prop where
  | unprepared {error : SaveError} {after : φ}
    (failed : prepare files path = (.error error, after)) :
    Course files path contents (.error error, after)
  | unwritten {prepared after : φ} {cause : FileError}
    (ready : prepare files path = (.ok (), prepared))
    (failed : FileSystem.write prepared (draft path) contents = (.error cause, after)) :
    Course files path contents (.error (.writing (draft path) cause), after)
  | unmoved {prepared written after : φ} {cause : FileError}
    (ready : prepare files path = (.ok (), prepared))
    (drafted : FileSystem.write prepared (draft path) contents = (.ok (), written))
    (failed : FileSystem.rename written (draft path) path = (.error cause, after)) :
    Course files path contents
      (.error (.renaming (draft path) cause), (FileSystem.remove after (draft path)).2)
  | moved {prepared written placed : φ}
    (ready : prepare files path = (.ok (), prepared))
    (drafted : FileSystem.write prepared (draft path) contents = (.ok (), written))
    (replaced : FileSystem.rename written (draft path) path = (.ok (), placed)) :
    Course files path contents
      ((FileSystem.restrict placed path).1.mapError .restricting,
        (FileSystem.restrict placed path).2)

theorem writeTo_course (files : φ) (path : Path) (entries : List Mapping) :
    Course files path (Utf8.encode (text entries)) (writeTo files path entries) := by
  unfold writeTo
  cases ready : prepare files path with
  | mk outcome prepared =>
    cases outcome with
    | error error => exact .unprepared ready
    | ok =>
      dsimp only
      cases drafted :
          FileSystem.write prepared (draft path) (Utf8.encode (text entries)) with
      | mk outcome written =>
        cases outcome with
        | error cause => exact .unwritten ready drafted
        | ok =>
          dsimp only
          unfold replace
          cases replaced : FileSystem.rename written (draft path) path with
          | mk outcome placed =>
            cases outcome with
            | error cause => exact .unmoved ready drafted replaced
            | ok =>
              have course := Course.moved ready drafted replaced
              dsimp only
              generalize FileSystem.restrict placed path = result at course ⊢
              obtain ⟨outcome, after⟩ := result
              cases outcome <;> exact course

/-! ### Reading the file -/

/-- The text of a file; a file that cannot be read is as good as empty. -/
def fileText (files : φ) (path : Path) : List Char :=
  match FileSystem.readText files path with
  | .ok text => text.toList
  | .error _ => []

theorem load_eq (files : φ) (directory : Path) :
    load files (some directory) =
      { path := some (directory.child fileName)
        entries := ofText (fileText files (directory.child fileName)), dirty := false } := by
  have place : (empty (some directory)).path = some (directory.child fileName) := rfl
  unfold load fileText
  simp only [place]
  cases FileSystem.readText files (directory.child fileName) <;> rfl

variable [Lasting φ]

theorem fileText_of_read {path : Path} {contents : List Char}
    (held : FileSystem.read files path = .ok (Utf8.encode contents)) :
    fileText files path = contents := by
  unfold fileText
  rw [Lasting.readText_of_read held]
  exact String.toList_ofList

/-! ### Writing the file -/

theorem sound_prepare (sound : Sound files) (path : Path) : Sound (prepare files path).2 := by
  unfold prepare
  split
  · exact sound
  · rename_i directory inside
    have made := Lasting.sound_makeDirectory directory sound
    generalize FileSystem.makeDirectory files directory = result at made ⊢
    obtain ⟨outcome, after⟩ := result
    cases outcome <;> exact made

theorem drafted_spec {written : φ} {place : Path} {contents : List UInt8} (sound : Sound files)
    (drafted : FileSystem.write files place contents = (.ok (), written)) :
    Sound written ∧ FileSystem.read written place = .ok contents := by
  have kept := Lasting.sound_write place contents sound
  have held := @Lasting.read_write φ _ _ files place contents sound
  rw [drafted] at kept held
  exact ⟨kept, held rfl⟩

/-- **What the file holds after it was written**: the text of the mappings. -/
theorem writeTo_spec (sound : Sound files) (path : Path) (entries : List Mapping) :
    Sound (writeTo files path entries).2 ∧
      ((writeTo files path entries).1 = .ok () →
        FileSystem.read (writeTo files path entries).2 path =
          .ok (Utf8.encode (text entries))) := by
  have course := writeTo_course files path entries
  generalize writeTo files path entries = result at course ⊢
  have prepared := sound_prepare sound path
  cases course with
  | unprepared failed =>
    rw [failed] at prepared
    exact ⟨prepared, nofun⟩
  | unwritten ready failed =>
    rw [ready] at prepared
    have written := Lasting.sound_write (draft path) (Utf8.encode (text entries)) prepared
    rw [failed] at written
    exact ⟨written, nofun⟩
  | unmoved ready drafted failed =>
    rw [ready] at prepared
    obtain ⟨written, held⟩ := drafted_spec prepared drafted
    have moved := Lasting.sound_rename path written held
    rw [failed] at moved
    exact ⟨Lasting.sound_remove _ moved, nofun⟩
  | @moved _ _ placed ready drafted replaced =>
    rw [ready] at prepared
    obtain ⟨written, held⟩ := drafted_spec prepared drafted
    have moved := Lasting.sound_rename path written held
    have kept := @Lasting.read_rename φ _ _ _ _ path _ written held
    rw [replaced] at moved kept
    refine ⟨Lasting.sound_restrict path moved, fun done => ?_⟩
    refine Lasting.read_restrict moved (kept rfl) ?_
    cases outcome : (FileSystem.restrict placed path).1 with
    | ok => rfl
    | error cause =>
      rw [outcome] at done
      cases done

/-! ### Saving -/

theorem sound_save (sound : Sound files) (store : Store) : Sound (store.save files).2.2 := by
  unfold save
  split
  · exact sound
  · split
    · exact sound
    · rename_i path kept
      have written := (writeTo_spec sound path store.entries).1
      generalize writeTo files path store.entries = result at written ⊢
      obtain ⟨outcome, after⟩ := result
      cases outcome <;> exact written

/-- **What a store is read as after it was saved**: what the text of its mappings is read as. -/
theorem load_save (sound : Sound files) {directory : Path} {store saved : Store} {after : φ}
    (path : store.path = some (directory.child fileName))
    (done : store.save files = (.ok true, saved, after)) :
    saved = { store with dirty := false } ∧
      load after (some directory) = { saved with entries := ofText (text store.entries) } := by
  unfold save at done
  split at done
  · cases done
  · rw [path] at done
    dsimp only at done
    have written := writeTo_spec sound (directory.child fileName) store.entries
    generalize writeTo files (directory.child fileName) store.entries = result at written done
    obtain ⟨outcome, files⟩ := result
    cases outcome with
    | error cause => cases done
    | ok =>
      cases done
      refine ⟨by rw [path], ?_⟩
      rw [load_eq, fileText_of_read (written.2 rfl)]

end

/-! ### Stores that were recorded -/

/-- The stores that are kept in a directory and have come about by recording, from nothing or from
what a file held. -/
inductive Reached (directory : Path) : Store → Prop where
  | empty : Reached directory (empty (some directory))
  | load {φ : Type} [FileSystem φ] (files : φ) : Reached directory (load files (some directory))
  | insert {store : Store} (reached : Reached directory store) (command action : String) :
    Reached directory (store.insert command action).2

theorem wellKept_insert {store : Store} (kept : WellKept store.entries) (command action : String) :
    WellKept (store.insert command action).2.entries := by
  unfold insert
  split
  · exact kept
  · exact kept.upsert _

theorem path_insert (store : Store) (command action : String) :
    (store.insert command action).2.path = store.path := by
  unfold insert
  split <;> rfl

theorem Reached.path {directory : Path} {store : Store} (reached : Reached directory store) :
    store.path = some (directory.child fileName) := by
  induction reached with
  | empty => rfl
  | load files => rw [load_eq]
  | insert reached command action ih => rw [path_insert, ih]

theorem Reached.wellKept {directory : Path} {store : Store} (reached : Reached directory store) :
    WellKept store.entries := by
  induction reached with
  | empty => exact wellKept_nil
  | load files =>
    rw [load_eq]
    exact wellKept_ofText _
  | insert reached command action ih => exact wellKept_insert ih command action

/-- **Saved mappings come back.** On a file system that keeps what it is given, a store whose
mappings are storable is read back from where it was saved: the same mappings in the same order, and
no change to be saved. -/
theorem reload_of_save {φ : Type} [FileSystem φ] [Lasting φ] {files after : φ}
    {directory : Path} {store saved : Store} (reached : Reached directory store)
    (storable : ∀ entry ∈ store.entries, entry.Storable) (sound : Sound files)
    (done : store.save files = (.ok true, saved, after)) :
    (load after (some directory)).dirty = false ∧
      (load after (some directory)).entries = store.entries := by
  obtain ⟨clean, loaded⟩ := load_save sound reached.path done
  rw [loaded, clean]
  exact ⟨rfl, (ofText_text_iff reached.wellKept).mpr storable⟩

/-- A store of one mapping, to be kept in the directory of a user. -/
def terminals : Store :=
  ((empty (some (.ofString "/home/u/.dt"))).insert "xterm" "Term").2

/-- The same with two more mappings, the first of which has been given another action since. -/
def emulators : Store :=
  (((terminals.insert "dtterm" "Dt term").2.insert "rxvt" "Light").2.insert "dtterm" "Dtterm").2

/-- On a file system with modes where there is nothing yet, not even the directory. -/
theorem reload_of_emulators :
    (emulators.save Disk.empty).1 = .ok true ∧
      (load (emulators.save Disk.empty).2.2 (some (.ofString "/home/u/.dt"))).dirty = false ∧
      (load (emulators.save Disk.empty).2.2 (some (.ofString "/home/u/.dt"))).entries =
        [⟨"xterm", "Term"⟩, ⟨"dtterm", "Dtterm"⟩, ⟨"rxvt", "Light"⟩] := by
  have done : (emulators.save Disk.empty).1 = .ok true := by cbv
  have entries : emulators.entries =
      [⟨"xterm", "Term"⟩, ⟨"dtterm", "Dtterm"⟩, ⟨"rxvt", "Light"⟩] := by decide +kernel
  have storable : ∀ entry ∈ emulators.entries, entry.Storable := by
    rw [entries]
    decide +kernel
  have reached : Reached (.ofString "/home/u/.dt") emulators :=
    .insert (.insert (.insert (.insert .empty _ _) _ _) _ _) _ _
  have reloaded := reload_of_save reached storable Disk.orderly_empty (Prod.ext done rfl)
  exact ⟨done, reloaded.1, reloaded.2.trans entries⟩

end LaunchSupervisor.IconCache.Store
