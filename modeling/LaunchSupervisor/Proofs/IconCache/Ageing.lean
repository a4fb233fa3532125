import LaunchSupervisor.Proofs.IconCache.Reload

/-!
**How mappings age.** A program gets its place in the store when it is recorded without being known,
and keeps it whatever action is recorded for it later. The oldest leave when there are too many; one
that has left and is recorded again is new.

* `fresh`: the programs in the order in which they came, those that came again included.
* `commands_foldl_upsert`: a store holds the last of them, as many as fit.
* `inserted`: what recording one mapping does to a store.
* `recorded_in_order`: all this of every store that is opened and recorded into.
-/

namespace LaunchSupervisor.IconCache

/-! ### The end of a list -/

/-- Of a longer list the same is kept at the end, whether or not its start was cut before. -/
theorem rtake_rtake_append {α : Type} (earlier later : List α) (count : Nat) :
    (earlier.rtake count ++ later).rtake count = (earlier ++ later).rtake count := by
  have cut : earlier.rtake count ++ later =
      (earlier ++ later).drop (earlier.length - count) := by
    rw [List.rtake, List.drop_append_of_le_length (Nat.sub_le _ _)]
  rw [cut, List.rtake, List.rtake, List.drop_drop, List.length_drop, List.length_append]
  congr 1
  omega

theorem rtake_of_length_le {α : Type} {list : List α} {count : Nat}
    (short : list.length ≤ count) :
    list.rtake count = list := by
  rw [List.rtake, Nat.sub_eq_zero_of_le short, List.drop_zero]

/-! ### The programs of a store -/

theorem commands_boundedTail {entries : List Mapping} (bound : entries.length ≤ capacity + 1) :
    (boundedTail entries).map (·.command) = (entries.map (·.command)).rtake capacity := by
  unfold boundedTail
  split
  · rename_i full
    have one : entries.length - capacity = 1 := by omega
    rw [List.rtake, List.length_map, one, List.drop_one, List.map_tail]
  · rename_i fits
    rw [rtake_of_length_le (by rw [List.length_map]; omega)]

/-- The programs that were not known when they were recorded, each as often as this was so. -/
def fresh (entries : List Mapping) : List Mapping → List String
  | [] => []
  | mapping :: rest =>
    if known entries mapping.command then fresh (upsert entries mapping) rest
    else mapping.command :: fresh (upsert entries mapping) rest

/-- **A store holds the programs that came last**, in the order in which they came. -/
theorem commands_foldl_upsert {entries : List Mapping} (bound : entries.length ≤ capacity)
    (mappings : List Mapping) :
    (mappings.foldl upsert entries).map (·.command) =
      (entries.map (·.command) ++ fresh entries mappings).rtake capacity := by
  induction mappings generalizing entries with
  | nil =>
    rw [fresh, List.append_nil, rtake_of_length_le (by rwa [List.length_map])]
    rfl
  | cons mapping rest ih =>
    rw [List.foldl_cons, ih (length_upsert_le mapping bound), fresh]
    split
    · rename_i present
      rw [upsert_commands_known present]
    · rename_i absent
      rw [upsert_commands_fresh (Bool.eq_false_iff.mpr absent),
        commands_boundedTail (by simpa using bound), rtake_rtake_append, List.map_append,
        List.append_assoc]
      rfl

/-! ### Recording one mapping -/

/-- A program that is known keeps its position, and nothing else changes. -/
theorem upsert_split {older newer : List Mapping} {held mapping : Mapping}
    (kept : WellKept (older ++ held :: newer)) (same : held.command = mapping.command) :
    upsert (older ++ held :: newer) mapping = older ++ mapping :: newer := by
  have distinct := kept.distinct
  rw [List.map_append, List.map_cons, List.nodup_middle, List.nodup_cons] at distinct
  have unchanged (part : List Mapping) (within : part ⊆ older ++ newer) :
      part.map (fun entry => if entry.command = mapping.command then mapping else entry) =
        part := by
    refine (List.map_congr_left fun entry member => if_neg fun equal => ?_).trans
      (List.map_id' part)
    refine distinct.1 ?_
    rw [same, ← equal, ← List.map_append]
    exact List.mem_map_of_mem (within member)
  have present : known (older ++ held :: newer) mapping.command := by
    rw [known_iff, List.map_append, List.map_cons, same]
    exact List.mem_append_right _ List.mem_cons_self
  rw [upsert, if_pos present, List.map_append, List.map_cons, if_pos same,
    unchanged older (List.subset_append_left _ _), unchanged newer (List.subset_append_right _ _)]

/-- Recording a mapping that is there already changes nothing. -/
theorem upsert_of_mem {entries : List Mapping} {mapping : Mapping} (kept : WellKept entries)
    (member : mapping ∈ entries) : upsert entries mapping = entries := by
  obtain ⟨older, newer, rfl⟩ := List.append_of_mem member
  exact upsert_split kept rfl

/-- A program that is not known goes to the end, and the oldest leaves if that is one too many. -/
theorem upsert_absent {entries : List Mapping} {mapping : Mapping} (kept : WellKept entries)
    (absent : mapping.command ∉ entries.map (·.command)) :
    upsert entries mapping =
      if entries.length = capacity then entries.tail ++ [mapping] else entries ++ [mapping] := by
  have bound := kept.bound
  rw [upsert_commands_fresh (by rwa [← known_iff, Bool.not_eq_true] at absent), boundedTail,
    List.length_append, List.length_singleton]
  by_cases full : entries.length = capacity
  · have filled : entries ≠ [] := fun empty => by simp [empty, capacity] at full
    rw [if_pos full, if_pos (by omega), List.tail_append_of_ne_nil filled]
  · rw [if_neg full, if_neg (by omega)]

namespace Store

/-- **What recording a mapping does to a store.** -/
structure Inserted (store : Store) (mapping : Mapping) (result : Bool × Store) : Prop where
  path : result.2.path = store.path
  stale : result.1 = false ↔ mapping ∈ store.entries
  same : result.1 = false → result.2 = store
  updated : ∀ older held newer, store.entries = older ++ held :: newer →
    held.command = mapping.command → result.2.entries = older ++ mapping :: newer
  appended : mapping.command ∉ store.entries.map (·.command) → result.2.entries =
    if store.entries.length = capacity then store.entries.tail ++ [mapping]
    else store.entries ++ [mapping]

/-- In a store that is well kept, recording is what it is for lists of mappings. -/
theorem entries_insert {store : Store} (kept : WellKept store.entries) (command action : String) :
    (store.insert command action).2.entries = upsert store.entries ⟨command, action⟩ := by
  unfold insert
  split
  · rename_i there
    exact (upsert_of_mem kept (List.contains_iff_mem.mp there)).symm
  · rfl

theorem inserted {store : Store} (kept : WellKept store.entries) (command action : String) :
    Inserted store ⟨command, action⟩ (store.insert command action) := by
  have entries := entries_insert kept command action
  refine ⟨path_insert store command action, ?_, ?_, fun older held newer split same => ?_,
    fun absent => ?_⟩
  · unfold insert
    split
    · rename_i there
      simpa using there
    · rename_i news
      simpa using news
  · unfold insert
    split
    · exact fun _ => rfl
    · nofun
  · rw [entries, split]
    exact upsert_split (split ▸ kept) same
  · rw [entries]
    exact upsert_absent kept absent

/-! ### Recording many -/

/-- Records mappings one after the other; tells of each of them whether it was news. -/
def insertEach (store : Store) : List Mapping → List Bool × Store
  | [] => ([], store)
  | mapping :: rest =>
    let (news, store) := store.insert mapping.command mapping.action
    let (more, store) := insertEach store rest
    (news :: more, store)

theorem entries_insertEach {store : Store} (kept : WellKept store.entries)
    (mappings : List Mapping) :
    (store.insertEach mappings).2.entries = mappings.foldl upsert store.entries := by
  induction mappings generalizing store with
  | nil => rfl
  | cons mapping rest ih =>
    rw [List.foldl_cons, ← entries_insert kept]
    exact ih (wellKept_insert kept mapping.command mapping.action)

theorem dirty_insert (store : Store) (command action : String) :
    (store.insert command action).2.dirty =
      (store.dirty || (store.insert command action).1) := by
  unfold insert
  split
  · exact (Bool.or_false _).symm
  · exact (Bool.or_true _).symm

theorem dirty_insertEach (store : Store) (mappings : List Mapping) :
    (store.insertEach mappings).2.dirty =
      (store.dirty || (store.insertEach mappings).1.any id) := by
  induction mappings generalizing store with
  | nil => exact (Bool.or_false _).symm
  | cons mapping rest ih =>
    have first := dirty_insert store mapping.command mapping.action
    have others := ih (store.insert mapping.command mapping.action).2
    rw [first, Bool.or_assoc] at others
    exact others

/-! ### Stores that are opened -/

/-- The mappings that stand in the file of a store, line by line. -/
def mappingsIn {φ : Type} [FileSystem φ] (files : φ) : Option Path → List Mapping
  | none => []
  | some directory =>
    (Text.lines (fileText files (directory.child fileName))).filterMap mapping?

/-- **A store that has just been opened**: a new one, or one read from a file of any contents. -/
inductive Opened (directory : Option Path) : List Mapping → Store → Prop where
  | empty : Opened directory [] (empty directory)
  | load {φ : Type} [FileSystem φ] (files : φ) :
    Opened directory (mappingsIn files directory) (load files directory)

theorem Opened.entries {directory : Option Path} {read : List Mapping} {store : Store}
    (opened : Opened directory read store) : store.entries = read.foldl upsert [] := by
  cases opened with
  | empty => rfl
  | load files =>
    cases directory with
    | none => rfl
    | some directory =>
      rw [load_eq]
      rfl

/-- **A store holds what was recorded last, in the order in which it came.** Of every store that was
opened and into which mappings were recorded: each program is there once, and no more than fit; they
are the last of those that came; what one more mapping does is known; and the store is to be saved
if it was so before or something was news. -/
theorem recorded_in_order {directory : Option Path} {read : List Mapping} {opened : Store}
    (opening : Opened directory read opened) (recorded : List Mapping) :
    ((opened.insertEach recorded).2.entries.map (·.command)).Nodup ∧
      (opened.insertEach recorded).2.entries.length ≤ capacity ∧
      (opened.insertEach recorded).2.entries.map (·.command) =
        (fresh [] (read ++ recorded)).rtake capacity ∧
      (∀ command action, Inserted (opened.insertEach recorded).2 ⟨command, action⟩
        ((opened.insertEach recorded).2.insert command action)) ∧
      ∀ more, ((opened.insertEach recorded).2.insertEach more).2.dirty =
        ((opened.insertEach recorded).2.dirty ||
          ((opened.insertEach recorded).2.insertEach more).1.any id) := by
  have start : WellKept opened.entries := by
    rw [opening.entries]
    exact wellKept_nil.foldl_upsert read
  have entries : (opened.insertEach recorded).2.entries = (read ++ recorded).foldl upsert [] := by
    rw [entries_insertEach start, opening.entries, List.foldl_append]
  have kept : WellKept (opened.insertEach recorded).2.entries := by
    rw [entries]
    exact wellKept_nil.foldl_upsert _
  refine ⟨kept.distinct, kept.bound, ?_, fun command action => inserted kept command action,
    fun more => dirty_insertEach _ more⟩
  rw [entries, commands_foldl_upsert (Nat.zero_le _), List.map_nil, List.nil_append]

/-- Files of a user whose store names a program twice and has a line without a tab. -/
def replayed : Tree :=
  Tree.empty.addFile (.ofString "/home/u/.dt/action-icon-cache")
    (Utf8.bytes "xterm\tTerm\nvi\tEdit\nno tab\nxterm\tConsole\n")

/-- What was read for the second time has kept its place, and what is recorded next comes last. -/
theorem recorded_after_replay :
    Opened (some (.ofString "/home/u/.dt"))
        [⟨"xterm", "Term"⟩, ⟨"vi", "Edit"⟩, ⟨"xterm", "Console"⟩]
        (load replayed (some (.ofString "/home/u/.dt"))) ∧
      ((load replayed (some (.ofString "/home/u/.dt"))).insertEach
        [⟨"zsh", "Edit"⟩]).2.entries.map (·.command) = ["xterm", "vi", "zsh"] := by
  have opening : Opened (some (.ofString "/home/u/.dt"))
      (mappingsIn replayed (some (.ofString "/home/u/.dt")))
      (load replayed (some (.ofString "/home/u/.dt"))) := .load replayed
  have read : mappingsIn replayed (some (.ofString "/home/u/.dt")) =
      [⟨"xterm", "Term"⟩, ⟨"vi", "Edit"⟩, ⟨"xterm", "Console"⟩] := by cbv
  rw [read] at opening
  obtain ⟨-, -, commands, -, -⟩ := recorded_in_order opening [⟨"zsh", "Edit"⟩]
  exact ⟨opening, commands.trans (by cbv)⟩

end Store

end LaunchSupervisor.IconCache
