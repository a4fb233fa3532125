import LaunchSupervisor.Proofs.Files.Faltering
import LaunchSupervisor.Proofs.IconCache.Reload

/-!
**Saving is all or nothing.** Whichever changes fail, and however, the file of a store holds what it
held or the text of all mappings: what is written is a draft beside the file, which is then moved as
a whole. The store counts as saved only if every step was made.

* `beside_draft`: the draft lies beside the file.
* `writeTo_whole`: what was asked for and what the file holds when it did, and when it did not.
* `all_or_nothing`: what is certain after a store was saved.
-/

namespace LaunchSupervisor.IconCache.Store

/-! ### The draft lies beside the file -/

/-- What is added to a path without a slash is added to its last stretch. -/
theorem splitOn_append_plain {slash : UInt8} (start : List UInt8) {ending : List UInt8}
    (plain : slash ∉ ending) :
    ∃ front last, start.splitOn slash = front ++ [last] ∧
      (start ++ ending).splitOn slash = front ++ [last ++ ending] := by
  induction start with
  | nil =>
    refine ⟨[], [], rfl, ?_⟩
    simpa using List.splitOn_eq_singleton plain
  | cons byte rest ih =>
    obtain ⟨front, last, before, after⟩ := ih
    rw [List.cons_append, List.splitOn_cons_eq_if_modifyHead, List.splitOn_cons_eq_if_modifyHead,
      before, after]
    split
    · exact ⟨[] :: front, last, rfl, rfl⟩
    · cases front with
      | nil => exact ⟨[], byte :: last, rfl, rfl⟩
      | cons first front => exact ⟨(byte :: first) :: front, last, rfl, rfl⟩

theorem isAbsolute_draft (path : Path) : (draft path).isAbsolute = path.isAbsolute := by
  obtain ⟨bytes⟩ := path
  cases bytes with
  | nil => decide +kernel
  | cons byte rest => rfl

/-- The stretches of a path and of its draft, which differ in the last one. -/
theorem segments_draft (path : Path) :
    ∃ front last longer, path.segments = front ++ [last] ∧
      (draft path).segments = front ++ [longer] ∧ last.length < longer.length ∧
      3 < longer.length := by
  obtain ⟨front, last, before, after⟩ := splitOn_append_plain path.bytes
    (show Path.slash ∉ Utf8.bytes ".tmp" by decide +kernel)
  have long : (last ++ Utf8.bytes ".tmp").length = last.length + 4 := by
    rw [List.length_append, show (Utf8.bytes ".tmp").length = 4 by decide +kernel]
  exact ⟨front, last, _, before, after, by omega, by omega⟩

theorem ofSegment?_of_long {segment : List UInt8} (long : 3 < segment.length) :
    Path.Part.ofSegment? segment = some (.name segment) := by
  unfold Path.Part.ofSegment?
  rw [if_neg, if_neg, if_neg] <;> (rintro rfl; simp at long)

theorem ofSegment?_ne {segment name : List UInt8} (different : segment ≠ name) :
    (Path.Part.ofSegment? segment).toList ≠ [.name name] := by
  unfold Path.Part.ofSegment?
  split_ifs <;> simp [different]

/-- Whether a place is beside another: the same but for a last part of its own. -/
def Beside (draft place : Place) : Prop :=
  ∃ above name ending, draft = above ++ [.name name] ∧ place = above ++ ending ∧
    ending.length ≤ 1 ∧ ending ≠ [.name name]

theorem Beside.ne {draft place : Place} (beside : Beside draft place) : draft ≠ place := by
  obtain ⟨above, name, ending, rfl, rfl, -, different⟩ := beside
  exact fun same => different (List.append_cancel_left same).symm

theorem Beside.length_le {draft place : Place} (beside : Beside draft place) :
    place.length ≤ draft.length := by
  obtain ⟨above, name, ending, rfl, rfl, short, -⟩ := beside
  rw [List.length_append, List.length_append, List.length_singleton]
  omega

theorem beside_of_segments (above : Place) (front : List (List UInt8)) {last longer : List UInt8}
    (grown : last.length < longer.length) (long : 3 < longer.length) :
    Beside (above ++ (front ++ [longer]).filterMap Path.Part.ofSegment?)
      (above ++ (front ++ [last]).filterMap Path.Part.ofSegment?) := by
  have different : last ≠ longer := fun same => absurd (same ▸ grown) (Nat.lt_irrefl _)
  refine ⟨above ++ front.filterMap Path.Part.ofSegment?, longer,
    (Path.Part.ofSegment? last).toList, ?_, ?_, ?_, ofSegment?_ne different⟩
  · simp [ofSegment?_of_long long]
  · rw [List.filterMap_append, List.append_assoc]
    cases parts : Path.Part.ofSegment? last <;> simp [parts]
  · cases Path.Part.ofSegment? last <;> simp

/-- **The draft lies beside the file.** -/
theorem beside_draft (path : Path) : Beside (draft path).place path.place := by
  obtain ⟨front, last, longer, before, after, grown, long⟩ := segments_draft path
  unfold Path.place
  rw [isAbsolute_draft, before, after]
  by_cases absolute : path.isAbsolute
  · rw [if_pos absolute, if_pos absolute]
    exact beside_of_segments [.root] front grown long
  · rw [if_neg absolute, if_neg absolute]
    -- A stretch at the start is a part of its own if it is a dot, which the longer one is not.
    have notDot : longer ≠ [46] := by
      rintro rfl
      simp at long
    cases front with
    | nil =>
      have named : [longer].filterMap Path.Part.ofSegment? = [.name longer] := by
        simp [ofSegment?_of_long long]
      by_cases dot : last = [46]
      · subst dot
        refine ⟨[], longer, [.here], ?_, rfl, le_rfl, nofun⟩
        simp [notDot, named]
      · simpa [notDot, dot] using beside_of_segments [] [] grown long
    | cons first rest =>
      by_cases dot : first = [46]
      · subst dot
        exact beside_of_segments [.here] rest grown long
      · simpa [dot] using beside_of_segments [] (first :: rest) grown long

/-! ### What is asked for and what becomes of the file -/

/-- What is asked for first: the directory of the path, if it lies in one. -/
def directorySteps (path : Path) : List FileChange :=
  (path.parent?.map FileChange.makeDirectory).toList

/-- The steps of saving to a path, each asked for when those before it were made. -/
def steps (path : Path) : List FileChange :=
  directorySteps path ++ [.write (draft path), .rename (draft path) path, .restrict path]

/-- Changes that were asked for and made. -/
def asMade (changes : List FileChange) : List (FileChange × Bool) :=
  changes.map fun change => (change, true)

/-- **Saving broke off at a step**: those before it were made, it was not, and nothing more was
asked for than that a draft which could not be moved be removed. The new contents are in place only
if it was the last step. -/
structure BrokeAt (path : Path) (contents : List UInt8) (before after : Faltering)
    (failed : FileChange) : Prop where
  calls : ∃ made left removed, steps path = made ++ failed :: left ∧
    after.calls = before.calls ++ asMade made ++ (failed, false) ::
      if failed = .rename (draft path) path then [(.remove (draft path), removed)] else []
  contents : after.contents path =
    if failed = .restrict path then some contents else before.contents path

/-- **Saving came to its end**: all steps were made, the file holds the new contents, and where the
draft was there is nothing. -/
structure Finished (path : Path) (contents : List UInt8) (before after : Faltering) : Prop where
  calls : after.calls = before.calls ++ asMade (steps path)
  contents : after.contents path = some contents
  gone : Tree.entry? after.tree (draft path).place = none

section

variable {files prepared written placed after : Faltering} {path : Path} {contents : List UInt8}

theorem prepare_spec (files : Faltering) (path : Path) :
    (prepare files path).2.contents path = files.contents path ∧
      ((prepare files path).1 = .ok () →
        (prepare files path).2.calls = files.calls ++ asMade (directorySteps path)) ∧
      ∀ error, (prepare files path).1 = .error error → ∃ directory,
        directorySteps path = [.makeDirectory directory] ∧
          (prepare files path).2.calls = files.calls ++ [(.makeDirectory directory, false)] := by
  unfold prepare directorySteps
  cases path.parent? with
  | none => exact ⟨rfl, fun _ => (List.append_nil _).symm, nofun⟩
  | some directory =>
    have kept := Faltering.contents_makeDirectory files directory path
    have noted := Faltering.calls_makeDirectory files directory
    dsimp only
    generalize FileSystem.makeDirectory files directory = result at kept noted ⊢
    obtain ⟨outcome, made⟩ := result
    cases outcome with
    | ok => exact ⟨kept, fun _ => noted, nofun⟩
    | error cause => exact ⟨kept, nofun, fun _ _ => ⟨directory, rfl, noted⟩⟩

theorem prepare_failed {error : SaveError} (failed : prepare files path = (.error error, after)) :
    ∃ directory, BrokeAt path contents files after (.makeDirectory directory) := by
  obtain ⟨kept, -, broke⟩ := prepare_spec files path
  rw [failed] at kept broke
  obtain ⟨directory, first, noted⟩ := broke error rfl
  refine ⟨directory,
    ⟨[], [.write (draft path), .rename (draft path) path, .restrict path], false,
    ?_, ?_⟩, kept⟩
  · rw [steps, first]
    rfl
  · rw [noted, if_neg nofun, asMade, List.map_nil, List.append_nil]

theorem draft_done (ready : prepare files path = (.ok (), prepared))
    (drafted : FileSystem.write prepared (draft path) contents = (.ok (), written)) :
    written.calls = files.calls ++ asMade (directorySteps path ++ [.write (draft path)]) ∧
      written.contents path = files.contents path ∧
      written.contents (draft path) = some contents := by
  obtain ⟨kept, before, -⟩ := prepare_spec files path
  rw [ready] at kept before
  have noted := Faltering.calls_write prepared (draft path) contents
  have same := Faltering.contents_write_other prepared contents (beside_draft path).ne.symm
  have held := Faltering.contents_write prepared (draft path) contents
  rw [drafted] at noted same held
  refine ⟨?_, same.trans kept, held rfl⟩
  rw [noted, before rfl, asMade, asMade, List.map_append, List.append_assoc]
  rfl

theorem draft_failed {cause : FileError} (ready : prepare files path = (.ok (), prepared))
    (failed : FileSystem.write prepared (draft path) contents = (.error cause, after)) :
    BrokeAt path contents files after (.write (draft path)) := by
  obtain ⟨kept, before, -⟩ := prepare_spec files path
  rw [ready] at kept before
  have noted := Faltering.calls_write prepared (draft path) contents
  have same := Faltering.contents_write_other prepared contents (beside_draft path).ne.symm
  rw [failed] at noted same
  refine ⟨⟨directorySteps path, [.rename (draft path) path, .restrict path], false,
    rfl, ?_⟩, ?_⟩
  · rw [noted, before rfl]
    rfl
  · rw [same, kept]
    rfl

theorem replace_failed {cause : FileError} (ready : prepare files path = (.ok (), prepared))
    (drafted : FileSystem.write prepared (draft path) contents = (.ok (), written))
    (failed : FileSystem.rename written (draft path) path = (.error cause, after)) :
    BrokeAt path contents files (FileSystem.remove after (draft path)).2
      (.rename (draft path) path) := by
  obtain ⟨before, kept, -⟩ := draft_done ready drafted
  have noted := Faltering.calls_rename written (draft path) path
  have idle := Faltering.entries_rename written (draft path) path cause
  rw [failed] at noted idle
  have same : after.contents path = written.contents path := by
    rw [Faltering.contents, Faltering.contents, Tree.contents_eq, Tree.contents_eq, idle rfl]
  refine ⟨⟨directorySteps path ++ [.write (draft path)], [.restrict path],
    (FileSystem.remove after (draft path)).1.isOk, ?_, ?_⟩, ?_⟩
  · rw [steps, List.append_assoc]
    rfl
  · rw [Faltering.calls_remove, noted, before, if_pos rfl, List.append_assoc]
    rfl
  · rw [if_neg nofun, Faltering.contents_remove_other after (beside_draft path).ne.symm,
      same, kept]

theorem replace_done (ready : prepare files path = (.ok (), prepared))
    (drafted : FileSystem.write prepared (draft path) contents = (.ok (), written))
    (replaced : FileSystem.rename written (draft path) path = (.ok (), placed)) :
    placed.calls = files.calls ++
        asMade (directorySteps path ++ [.write (draft path), .rename (draft path) path]) ∧
      placed.contents path = some contents ∧
      Tree.entry? placed.tree (draft path).place = none := by
  obtain ⟨before, -, held⟩ := draft_done ready drafted
  have noted := Faltering.calls_rename written (draft path) path
  have moved := Faltering.rename_done written (draft path) path
  rw [replaced] at noted moved
  obtain ⟨same, gone⟩ := moved rfl
  refine ⟨?_, same.trans held, gone (beside_draft path).ne (beside_draft path).length_le⟩
  rw [noted, before, asMade, asMade, List.map_append, List.map_append, List.append_assoc,
    List.append_assoc]
  rfl

/-- The last step, which does nothing to what the file holds. -/
theorem restrict_spec (ready : prepare files path = (.ok (), prepared))
    (drafted : FileSystem.write prepared (draft path) contents = (.ok (), written))
    (replaced : FileSystem.rename written (draft path) path = (.ok (), placed)) :
    ((FileSystem.restrict placed path).1 = .ok () →
        Finished path contents files (FileSystem.restrict placed path).2) ∧
      ∀ cause, (FileSystem.restrict placed path).1 = .error cause →
        BrokeAt path contents files (FileSystem.restrict placed path).2 (.restrict path) := by
  obtain ⟨before, held, gone⟩ := replace_done ready drafted replaced
  have noted := Faltering.calls_restrict placed path
  have idle := Faltering.entries_restrict placed path
  have same : (FileSystem.restrict placed path).2.contents path = some contents := by
    rw [Faltering.contents, Tree.contents_eq, idle, ← Tree.contents_eq]
    exact held
  refine ⟨fun done => ⟨?_, same, ?_⟩, fun cause failed => ⟨⟨directorySteps path ++
    [.write (draft path), .rename (draft path) path], [], false, ?_, ?_⟩, ?_⟩⟩
  · rw [noted, before, done, steps, asMade, asMade, List.map_append, List.map_append,
      List.append_assoc, List.append_assoc]
    rfl
  · rw [Tree.entry?, idle]
    exact gone
  · rw [steps, List.append_assoc]
    rfl
  · rw [noted, before, failed]
    rfl
  · rw [if_pos rfl, same]

end

/-- **What a file holds and what was asked for** when writing to it broke off or came to its end. -/
theorem writeTo_whole (files : Faltering) (path : Path) (entries : List Mapping) :
    ((writeTo files path entries).1 = .ok () →
        Finished path (Utf8.encode (text entries)) files (writeTo files path entries).2) ∧
      ∀ error, (writeTo files path entries).1 = .error error → ∃ failed,
        BrokeAt path (Utf8.encode (text entries)) files (writeTo files path entries).2 failed := by
  have course := writeTo_course files path entries
  generalize writeTo files path entries = result at course ⊢
  cases course with
  | unprepared failed =>
    obtain ⟨directory, broke⟩ := prepare_failed failed
    exact ⟨nofun, fun _ _ => ⟨_, broke⟩⟩
  | unwritten ready failed => exact ⟨nofun, fun _ _ => ⟨_, draft_failed ready failed⟩⟩
  | unmoved ready drafted failed =>
    exact ⟨nofun, fun _ _ => ⟨_, replace_failed ready drafted failed⟩⟩
  | @moved prepared written placed ready drafted replaced =>
    obtain ⟨finished, broke⟩ := restrict_spec ready drafted replaced
    generalize FileSystem.restrict placed path = last at finished broke ⊢
    obtain ⟨outcome, after⟩ := last
    cases outcome with
    | ok => exact ⟨fun _ => finished rfl, nofun⟩
    | error cause => exact ⟨nofun, fun _ _ => ⟨_, broke cause rfl⟩⟩

/-! ### Saving -/

/-- **What is certain after a store was saved.** -/
structure AllOrNothing (path : Path) (store saved : Store) (before after : Faltering)
    (outcome : Except SaveError Bool) : Prop where
  entries : saved.entries = store.entries
  /-- The file is never anything in between. -/
  whole : after.contents path = before.contents path ∨
    after.contents path = some (Utf8.encode (text store.entries))
  idle_iff : outcome = .ok false ↔ store.dirty = false ∨ store.entries = []
  idle : outcome = .ok false → saved = store ∧ after = before
  finished : outcome = .ok true → saved.dirty = false ∧
    Finished path (Utf8.encode (text store.entries)) before after
  broke : ∀ error, outcome = .error error → saved = store ∧ saved.dirty = true ∧
    ∃ failed, BrokeAt path (Utf8.encode (text store.entries)) before after failed

/-- **Saving is all or nothing**, whichever changes fail and whatever they leave behind. -/
theorem all_or_nothing {store : Store} {path : Path} (kept : store.path = some path)
    (files : Faltering) :
    AllOrNothing path store (store.save files).2.1 files (store.save files).2.2
      (store.save files).1 := by
  by_cases nothing : store.dirty = false ∨ store.entries = []
  · have idle : store.save files = (.ok false, store, files) := by
      rw [save, if_pos (by simpa using nothing)]
    rw [idle]
    refine ⟨rfl, .inl rfl, iff_of_true rfl nothing, fun _ => ⟨rfl, rfl⟩, ?_, ?_⟩
    · rintro ⟨⟩
    · rintro error ⟨⟩
  · obtain ⟨finished, broke⟩ := writeTo_whole files path store.entries
    have dirty : store.dirty = true := by simpa using (not_or.mp nothing).1
    rw [save, if_neg (by simpa using nothing), kept]
    dsimp only
    generalize writeTo files path store.entries = result at finished broke ⊢
    obtain ⟨outcome, after⟩ := result
    cases outcome with
    | ok =>
      have finished := finished rfl
      refine ⟨rfl, .inr finished.contents, iff_of_false ?_ nothing, ?_,
        fun _ => ⟨rfl, finished⟩, ?_⟩
      · rintro ⟨⟩
      · rintro ⟨⟩
      · rintro error ⟨⟩
    | error error =>
      obtain ⟨failed, broke⟩ := broke error rfl
      have held := broke.contents
      refine ⟨rfl, ?_, iff_of_false ?_ nothing, ?_, ?_,
        fun _ _ => ⟨rfl, dirty, failed, broke⟩⟩
      · split at held
        · exact .inr held
        · exact .inl held
      · rintro ⟨⟩
      · rintro ⟨⟩
      · rintro ⟨⟩

/-- The file of the store of one mapping. -/
def terminalsFile : Path := (Path.ofString "/home/u/.dt").child fileName

/-- A file system with an older file there, which the third change asked for leaves as it is. -/
def unmovable : Faltering where
  tree := Tree.empty.addFile terminalsFile (Utf8.bytes "vi\tEdit\n")
  fates := [.carriedOut, .carriedOut, .refused (.refused terminalsFile)]
  calls := []

theorem all_or_nothing_unmovable :
    terminals.path = some terminalsFile ∧
      AllOrNothing terminalsFile terminals (terminals.save unmovable).2.1 unmovable
        (terminals.save unmovable).2.2 (terminals.save unmovable).1 ∧
      (terminals.save unmovable).2.2.contents terminalsFile = some (Utf8.bytes "vi\tEdit\n") ∧
      (terminals.save unmovable).2.2.calls.getLast? =
        some (.remove (draft terminalsFile), true) :=
  have kept : terminals.path = some terminalsFile := path_insert _ _ _
  ⟨kept, all_or_nothing kept unmovable, by decide +kernel, by decide +kernel⟩

end LaunchSupervisor.IconCache.Store
