import LaunchSupervisor.IconCache.Basic
import LaunchSupervisor.Proofs.Files.Refusing
import LaunchSupervisor.Proofs.IconCache.Reload

/-!
**What becomes of the mappings that an update accepts.** An update saves the store only if it has
brought news itself. So the file holds what the store holds as long as no saving has failed, or
once one succeeds again; and of what is in the file, only storable mappings are read back.

* `Current`: how the store and its file stand to each other, kept by each update.
* `accepted_reloaded_iff`: when a store is read back after an update that was accepted.
* `reloaded_after_refusal`, `accepted_lost`: what is left of two reports when a saving fails.
-/

namespace LaunchSupervisor.IconCache

open Store (fileName text ofText)
open Lasting (Sound)

/-! ### Recording a report -/

theorem insert_cases (store : Store) (command action : String) :
    store.insert command action = (false, store) ∨
      store.insert command action =
        (true,
          { store with entries := upsert store.entries ⟨command, action⟩, dirty := true }) := by
  unfold Store.insert
  split
  · exact .inl rfl
  · exact .inr rfl

theorem upsert_ne_nil (entries : List Mapping) (mapping : Mapping) :
    upsert entries mapping ≠ [] := by
  by_cases present : known entries mapping.command
  · intro nothing
    have commands := upsert_commands_known present
    rw [nothing, List.map_nil, eq_comm, List.map_eq_nil_iff] at commands
    rw [commands] at present
    cases present
  · rw [upsert_commands_fresh (Bool.eq_false_iff.mpr present), boundedTail]
    split
    · rename_i full
      rw [ne_eq, ← List.length_eq_zero_iff, List.length_tail]
      simp only [capacity] at full
      omega
    · simp

/-- What recording a report does to a store: nothing, or it brings news that has to be saved. -/
structure Recorded (store : Store) (result : Bool × Store) : Prop where
  path : result.2.path = store.path
  kept : WellKept store.entries → WellKept result.2.entries
  same : result.1 = false → result.2 = store
  news : result.1 = true → result.2.dirty = true ∧ result.2.entries ≠ []

theorem recorded_insert (store : Store) (command action : String) :
    Recorded store (store.insert command action) := by
  refine ⟨Store.path_insert store command action,
    (Store.wellKept_insert · command action), ?_, ?_⟩
  · rcases insert_cases store command action with same | news
    · rw [same]
      exact fun _ => rfl
    · rw [news]
      nofun
  · rcases insert_cases store command action with same | news
    · rw [same]
      nofun
    · rw [news]
      exact fun _ => ⟨rfl, upsert_ne_nil _ _⟩

theorem recorded_insertAll (store : Store) (action : String) (children : List String) :
    Recorded store (insertAll store action children) := by
  induction children generalizing store with
  | nil => exact ⟨rfl, id, fun _ => rfl, nofun⟩
  | cons child rest ih =>
    have first := recorded_insert store (key child) action
    have others := ih (store.insert (key child) action).2
    refine ⟨others.path.trans first.path, others.kept ∘ first.kept, fun nothing => ?_,
      fun some_ => ?_⟩
    · obtain ⟨neither, nor⟩ := Bool.or_eq_false_iff.mp nothing
      exact (others.same nor).trans (first.same neither)
    · by_cases more : (insertAll (store.insert (key child) action).2 action rest).1
      · exact others.news more
      · have last := others.same (Bool.eq_false_iff.mpr more)
        show (insertAll (store.insert (key child) action).2 action rest).2.dirty = true ∧
          (insertAll (store.insert (key child) action).2 action rest).2.entries ≠ []
        rw [last]
        exact first.news ((Bool.or_eq_true _ _ |>.mp some_).resolve_right more)

section

variable {φ : Type} [FileSystem φ]

/-! ### One update -/

theorem save_news {store : Store} {path : Path} (dirty : store.dirty = true)
    (filled : store.entries ≠ []) (kept : store.path = some path) (files : φ) :
    (∃ cause after, store.save files = (.error cause, store, after)) ∨
      ∃ after, store.save files = (.ok true, { store with dirty := false }, after) := by
  unfold Store.save
  rw [if_neg (by simp [dirty, filled]), kept]
  dsimp only
  generalize Store.writeTo files path store.entries = result
  obtain ⟨outcome, after⟩ := result
  cases outcome with
  | error cause => exact .inl ⟨cause, after, rfl⟩
  | ok => exact .inr ⟨after, rfl⟩

/-- **What an update does**: nothing, or it brings news to the store, and the store is saved or
stays as it is to be saved. -/
inductive Updated (cache : IconCache) (files : φ) :
    Except SaveError Bool × IconCache × φ → Prop where
  | same : Updated cache files (.ok false, cache, files)
  | failed {store : Store} {cause : SaveError} {after : φ} (path : store.path = cache.store.path)
    (kept : WellKept cache.store.entries → WellKept store.entries) (dirty : store.dirty = true)
    (tried : store.save files = (.error cause, store, after)) :
    Updated cache files (.error cause, { cache with store }, after)
  | saved {store : Store} {after : φ} (path : store.path = cache.store.path)
    (kept : WellKept cache.store.entries → WellKept store.entries)
    (done : store.save files = (.ok true, { store with dirty := false }, after)) :
    Updated cache files (.ok true, { cache with store := { store with dirty := false } }, after)

theorem updated {cache : IconCache} {path : Path} (place : cache.store.path = some path)
    (files : φ)
    (action report : String) : Updated cache files (cache.update files action report) := by
  have recorded := recorded_insertAll cache.store (key action) (children report)
  unfold IconCache.update
  generalize insertAll cache.store (key action) (children report) = result at recorded ⊢
  obtain ⟨changed, store⟩ := result
  cases changed with
  | false =>
    have same : store = cache.store := recorded.same rfl
    rw [same]
    exact .same
  | true =>
    obtain ⟨dirty, filled⟩ := recorded.news rfl
    obtain ⟨cause, after, tried⟩ | ⟨after, done⟩ :=
      save_news dirty filled (recorded.path.trans place) files
    · simp only [if_true, tried]
      exact .failed recorded.path recorded.kept dirty tried
    · simp only [if_true, done]
      exact .saved recorded.path recorded.kept done

/-! ### A history of updates -/

/-- **The histories of a cache**: it is opened, and takes in one report after the other. How each
of them went is kept. -/
inductive History (environment : Environment) (opening : φ) :
    List (Except SaveError Bool) → IconCache → φ → Prop where
  | opened : History environment opening [] (load opening environment) opening
  | update {outcomes : List (Except SaveError Bool)} {cache : IconCache} {files : φ}
    (earlier : History environment opening outcomes cache files) (action report : String) :
    History environment opening (outcomes ++ [(cache.update files action report).1])
      (cache.update files action report).2.1 (cache.update files action report).2.2

variable [Lasting φ]

/-- **How a store and its file stand to each other**, if no change waits to be saved: the file is as
it was found, or it holds the text of the mappings. -/
structure Current (directory : Path) (outcomes : List (Except SaveError Bool)) (cache : IconCache)
    (files : φ) : Prop where
  sound : Sound files
  path : cache.store.path = some (directory.child fileName)
  kept : WellKept cache.store.entries
  found : cache.store.dirty = false → .ok true ∉ outcomes →
    (Store.load files (some directory)).entries = cache.store.entries
  filed : cache.store.dirty = false → .ok true ∈ outcomes →
    (Store.load files (some directory)).entries = ofText (text cache.store.entries)

theorem current_opened {environment : Environment} {opening : φ} {directory : Path}
    (home : environment.personalDirectory = some directory) (sound : Sound opening) :
    Current directory [] (load opening environment) opening := by
  have store : (load opening environment).store = Store.load opening (some directory) := by
    rw [load, home]
  refine ⟨sound, ?_, ?_, fun _ _ => by rw [store], fun _ saved => absurd saved List.not_mem_nil⟩
  · rw [store, Store.load_eq]
  · rw [store, Store.load_eq]
    exact wellKept_ofText _

/-- An update keeps them so, whether it is accepted or not. -/
theorem Current.updated {directory : Path} {outcomes : List (Except SaveError Bool)}
    {cache : IconCache} {files : φ} (current : Current directory outcomes cache files)
    {result : Except SaveError Bool × IconCache × φ} (updated : Updated cache files result) :
    Current directory (outcomes ++ [result.1]) result.2.1 result.2.2 := by
  cases updated with
  | same =>
    refine ⟨current.sound, current.path, current.kept, fun clean unsaved => ?_,
      fun clean saved => ?_⟩
    · exact current.found clean fun member => unsaved (List.mem_append_left _ member)
    · exact current.filed clean (by simpa using saved)
  | @failed store cause after path kept dirty tried =>
    -- The change waits to be saved, and of such a store nothing is claimed.
    have sound := Store.sound_save current.sound store
    rw [tried] at sound
    exact ⟨sound, path.trans current.path, kept current.kept,
      fun clean => absurd (dirty.symm.trans clean) nofun,
      fun clean => absurd (dirty.symm.trans clean) nofun⟩
  | @saved store after path kept done =>
    have place := path.trans current.path
    have sound := Store.sound_save current.sound store
    obtain ⟨-, loaded⟩ := Store.load_save current.sound place done
    rw [done] at sound
    exact ⟨sound, place, kept current.kept, fun _ unsaved => absurd (by simp) unsaved,
      fun _ _ => by rw [loaded]⟩

theorem current {environment : Environment} {opening : φ} {directory : Path}
    (home : environment.personalDirectory = some directory) (sound : Sound opening)
    {outcomes : List (Except SaveError Bool)} {cache : IconCache} {files : φ}
    (history : History environment opening outcomes cache files) :
    Current directory outcomes cache files := by
  induction history with
  | opened => exact current_opened home sound
  | update earlier action report ih =>
    exact ih.updated (IconCache.updated ih.path _ action report)

/-- **When accepted mappings are read back.** An update that is accepted has saved the store, or has
brought no news to a store without changes. Then the file is read as what the store holds just when
nothing was ever saved, or all mappings are storable. -/
theorem accepted_reloaded_iff {environment : Environment} {opening files after : φ}
    {directory : Path} {outcomes : List (Except SaveError Bool)} {cache next : IconCache}
    {action report : String} {changed : Bool}
    (home : environment.personalDirectory = some directory) (sound : Sound opening)
    (history : History environment opening outcomes cache files)
    (accepted : cache.update files action report = (.ok changed, next, after))
    (settled : changed = true ∨ cache.store.dirty = false) :
    (Store.load after (some directory)).entries = next.store.entries ↔
      .ok true ∉ outcomes ++ [.ok changed] ∨
        ∀ entry ∈ next.store.entries, entry.Storable := by
  have before := current home sound history
  have updated := IconCache.updated before.path files action report
  rw [accepted] at updated
  have now := before.updated updated
  have clean : next.store.dirty = false := by
    cases updated with
    | same => exact settled.resolve_left nofun
    | saved path kept done => rfl
  by_cases saved : .ok true ∈ outcomes ++ [.ok changed]
  · rw [now.filed clean saved, Store.ofText_text_iff now.kept]
    simp [saved]
  · rw [now.found clean saved]
    simp [saved]

end

/-! ### Updates with failures -/

/-- The environment of a user with a home. -/
def homely : Environment :=
  { home := some (.ofString "/home/u") }

/-- A cache is opened and takes in two reports, one after the other. -/
def reportedTwice {φ : Type} [FileSystem φ] (files : φ) (action first second : String) :
    Except SaveError Bool × IconCache × φ :=
  ((load files homely).update files action first).2.1.update
    ((load files homely).update files action first).2.2 action second

/-- A file system on which the first saving fails when the draft is to be moved into place. -/
def refusesOnce : Refusing Tree :=
  ⟨.empty, [false, false, true]⟩

/-- After a saving that has failed, the next update with news saves all that was reported. -/
theorem reloaded_after_refusal :
    ((load refusesOnce homely).update refusesOnce "vi" "xterm").1.isOk = false ∧
      (reportedTwice refusesOnce "vi" "xterm" "zsh").1 = .ok true ∧
      (reportedTwice refusesOnce "vi" "xterm" "zsh").2.1.store.entries =
        [⟨"xterm", "vi"⟩, ⟨"zsh", "vi"⟩] ∧
      (Store.load (reportedTwice refusesOnce "vi" "xterm" "zsh").2.2
          homely.personalDirectory).entries =
        (reportedTwice refusesOnce "vi" "xterm" "zsh").2.1.store.entries := by
  have failed : ((load refusesOnce homely).update refusesOnce "vi" "xterm").1.isOk = false := by cbv
  have accepted : (reportedTwice refusesOnce "vi" "xterm" "zsh").1 = .ok true := by cbv
  have entries : (reportedTwice refusesOnce "vi" "xterm" "zsh").2.1.store.entries =
      [⟨"xterm", "vi"⟩, ⟨"zsh", "vi"⟩] := by cbv
  have storable : ∀ entry ∈ (reportedTwice refusesOnce "vi" "xterm" "zsh").2.1.store.entries,
      entry.Storable := by
    rw [entries]
    decide +kernel
  have history : History homely refusesOnce _ _ _ := .update .opened "vi" "xterm"
  exact ⟨failed, accepted, entries, (accepted_reloaded_iff rfl trivial history
    (Prod.ext accepted rfl) (.inl rfl)).mpr (.inr storable)⟩

/-- A place of the cache's file at which every change fails. -/
def readOnly : Tree :=
  Tree.empty.failOn (.ofString "/home/u/.dt/action-icon-cache")

/-- **Accepted and lost**: an update without news is accepted although the store has never been
saved, and an action that is empty is saved on a line that is not read back. -/
theorem accepted_lost :
    (children "xterm" ≠ [] ∧ (reportedTwice readOnly "vi" "xterm" "xterm").1 = .ok false ∧
      (reportedTwice readOnly "vi" "xterm" "xterm").2.1.store.entries = [⟨"xterm", "vi"⟩] ∧
      (Store.load (reportedTwice readOnly "vi" "xterm" "xterm").2.2
        homely.personalDirectory).entries = []) ∧
    children "vi" ≠ [] ∧ ((load Tree.empty homely).update Tree.empty "" "vi").1 = .ok true ∧
      ((load Tree.empty homely).update Tree.empty "" "vi").2.1.store.entries =
        [⟨"vi", ""⟩] ∧
      (Store.load ((load Tree.empty homely).update Tree.empty "" "vi").2.2
        homely.personalDirectory).entries = [] := by
  refine ⟨⟨by decide +kernel, ?_, ?_, ?_⟩, by decide +kernel, ?_, ?_, ?_⟩ <;> cbv

end LaunchSupervisor.IconCache
