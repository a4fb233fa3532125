import LaunchSupervisor.Proofs.IconCache.Ageing
import LaunchSupervisor.Proofs.IconCache.Updates

/-!
**What is found after a report.** A program is recorded under its exact name, but looked up by names
that are alike, oldest first. So what a report has recorded is found unless an older program is
alike; and a program that was old already may have had to leave for others of the same report.

* `mem_commands_foldl_upsert_iff`: which of the programs recorded in one go are still there.
* `found_after_update`: what is found for the children of a report.
* `recorded_not_found`: an older program that is alike, and one that had to leave.
-/

namespace LaunchSupervisor.IconCache

/-! ### The end of a list -/

theorem mem_rtake_of_lt {α : Type} {earlier later : List α} {item : α} {count : Nat}
    (near : later.length < count) : item ∈ (earlier ++ item :: later).rtake count := by
  have early : (earlier ++ item :: later).length - count ≤ earlier.length := by
    rw [List.length_append, List.length_cons]
    omega
  rw [List.rtake, List.drop_append_of_le_length early]
  exact List.mem_append_right _ List.mem_cons_self

theorem rtake_append_of_le {α : Type} {earlier later : List α} {count : Nat}
    (long : count ≤ later.length) : (earlier ++ later).rtake count = later.rtake count := by
  have cut : (earlier ++ later).length - count = earlier.length + (later.length - count) := by
    rw [List.length_append]
    omega
  rw [List.rtake, cut, List.drop_length_add_append, List.rtake]

theorem rtake_subset {α : Type} (list : List α) (count : Nat) : list.rtake count ⊆ list :=
  List.drop_subset _ _

theorem length_rtake {α : Type} (list : List α) (count : Nat) :
    (list.rtake count).length = min count list.length := by
  rw [List.rtake, List.length_drop]
  omega

/-! ### Programs that come and programs that leave -/

section

variable {entries mappings : List Mapping} {command : String}

theorem fresh_subset (entries mappings : List Mapping) :
    fresh entries mappings ⊆ mappings.map (·.command) := by
  induction mappings generalizing entries with
  | nil => exact List.nil_subset _
  | cons mapping rest ih =>
    rw [fresh, List.map_cons]
    split
    · exact List.subset_cons_of_subset _ (ih _)
    · exact List.cons_subset_cons _ (ih _)

/-- What is recorded was known before or is new. -/
theorem known_or_fresh (recorded : command ∈ mappings.map (·.command)) :
    command ∈ entries.map (·.command) ∨ command ∈ fresh entries mappings := by
  induction mappings generalizing entries with
  | nil => cases recorded
  | cons mapping rest ih =>
    rw [fresh]
    rcases List.mem_cons.mp recorded with rfl | later
    · split
      · rename_i present
        exact .inl ((known_iff _ _).mp present)
      · exact .inr List.mem_cons_self
    · split
      · rename_i present
        rw [← upsert_commands_known present]
        exact ih later
      · rcases ih later with held | new
        · obtain ⟨entry, member, rfl⟩ := List.mem_map.mp held
          rcases mem_of_mem_upsert member with old | rfl
          · exact .inl (List.mem_map_of_mem old)
          · exact .inr List.mem_cons_self
        · exact .inr (List.mem_cons_of_mem _ new)

/-- **Programs that are new do not drive out each other** as long as they are no more than fit. -/
theorem mem_commands_of_fresh (kept : WellKept entries)
    (few : (mappings.map (·.command)).toFinset.card ≤ capacity)
    (new : command ∈ fresh entries mappings) :
    command ∈ (mappings.foldl upsert entries).map (·.command) := by
  have distinct := (kept.foldl_upsert mappings).distinct
  rw [commands_foldl_upsert kept.bound] at distinct ⊢
  by_contra absent
  obtain ⟨before, after, split⟩ := List.append_of_mem new
  rw [split, ← List.append_assoc] at distinct absent
  have long : capacity ≤ after.length :=
    Nat.le_of_not_lt fun near => absent (mem_rtake_of_lt near)
  -- So all that are left came after it: with it, there are more programs than there may be.
  have last : (entries.map (·.command) ++ before ++ command :: after).rtake capacity =
      after.rtake capacity := by
    rw [List.append_cons, rtake_append_of_le long]
  rw [last] at distinct absent
  have all : command :: after.rtake capacity ⊆ mappings.map (·.command) := by
    refine List.Subset.trans ?_ (fresh_subset entries mappings)
    rw [split]
    exact List.Subset.trans (List.cons_subset_cons command (rtake_subset after capacity))
      (List.subset_append_right before _)
  have many : (command :: after.rtake capacity).toFinset.card = capacity + 1 := by
    rw [List.toFinset_card_of_nodup (List.nodup_cons.mpr ⟨absent, distinct⟩), List.length_cons,
      length_rtake, Nat.min_eq_left long]
  have within := Finset.card_le_card fun name member =>
    List.mem_toFinset.mpr (all (List.mem_toFinset.mp member))
  omega

/-- The programs of a store and those that came after them, around one of the former. -/
theorem commands_split {older newer : List Mapping} {held : Mapping}
    (split : entries = older ++ held :: newer) (later : List String) :
    entries.map (·.command) ++ later =
      older.map (·.command) ++ held.command :: (newer.map (·.command) ++ later) := by
  rw [split, List.map_append, List.map_cons, List.append_assoc, List.cons_append]

/-- **Which of the programs recorded in one go are still there**: those that were new, and of those
known before the ones that were not too old for what was new. -/
theorem mem_commands_foldl_upsert_iff (kept : WellKept entries)
    (few : (mappings.map (·.command)).toFinset.card ≤ capacity)
    (recorded : command ∈ mappings.map (·.command)) :
    command ∈ (mappings.foldl upsert entries).map (·.command) ↔
      command ∈ fresh entries mappings ∨ ∃ older held newer,
        entries = older ++ held :: newer ∧ held.command = command ∧
          newer.length + (fresh entries mappings).length < capacity := by
  constructor
  · intro there
    by_cases new : command ∈ fresh entries mappings
    · exact .inl new
    · obtain ⟨held, member, rfl⟩ :=
        List.mem_map.mp ((known_or_fresh recorded).resolve_right new)
      obtain ⟨older, newer, split⟩ := List.append_of_mem member
      refine .inr ⟨older, held, newer, split, rfl, Nat.lt_of_not_le fun old => ?_⟩
      have distinct := kept.distinct
      rw [split, List.map_append, List.map_cons, List.nodup_middle, List.nodup_cons] at distinct
      rw [commands_foldl_upsert kept.bound, commands_split split, List.append_cons,
        rtake_append_of_le (by rwa [List.length_append, List.length_map])] at there
      rcases List.mem_append.mp (rtake_subset _ _ there) with later | later
      · exact distinct.1 (List.mem_append_right _ later)
      · exact new later
  · rintro (new | ⟨older, held, newer, split, rfl, near⟩)
    · exact mem_commands_of_fresh kept few new
    · rw [commands_foldl_upsert kept.bound, commands_split split]
      exact mem_rtake_of_lt (by rwa [List.length_append, List.length_map])

/-! ### What is recorded and what is found -/

theorem mem_upsert {entry mapping : Mapping} (member : entry ∈ upsert entries mapping) :
    entry = mapping ∨ entry.command ≠ mapping.command ∧ entry ∈ entries := by
  unfold upsert at member
  split at member
  · obtain ⟨old, held, rfl⟩ := List.mem_map.mp member
    split
    · exact .inl rfl
    · rename_i other
      exact .inr ⟨other, held⟩
  · rename_i absent
    have still : entry ∈ upsert entries mapping := by rwa [upsert, if_neg absent]
    refine (mem_of_mem_upsert still).symm.imp_right fun old => ⟨fun same => absent ?_, old⟩
    rw [known_iff, ← same]
    exact List.mem_map_of_mem old

/-- A program recorded for one action alone has that action. -/
theorem action_of_mem_foldl_upsert {action : String} {entry : Mapping}
    (alone : ∀ mapping ∈ mappings, mapping.action = action)
    (member : entry ∈ mappings.foldl upsert entries)
    (recorded : entry.command ∈ mappings.map (·.command)) : entry.action = action := by
  induction mappings generalizing entries with
  | nil => cases recorded
  | cons mapping rest ih =>
    rw [List.foldl_cons] at member
    by_cases again : entry.command ∈ rest.map (·.command)
    · exact ih (fun other later => alone other (List.mem_cons_of_mem _ later)) member again
    · have first : entry.command = mapping.command :=
        (List.mem_cons.mp recorded).resolve_right again
      rcases mem_of_mem_foldl_upsert member with held | later
      · rcases mem_upsert held with rfl | ⟨other, -⟩
        · exact alone _ List.mem_cons_self
        · exact absurd first other
      · exact absurd (List.mem_map_of_mem later) again

end

namespace Store

/-- A program that is there is found, unless an older one is alike. -/
theorem find?_split {store : Store} {older newer : List Mapping} {held : Mapping}
    (split : store.entries = older ++ held :: newer) :
    store.find? held.command =
      some (((older.find? fun entry => resembles entry.command held.command).map
        (·.action)).getD held.action) := by
  rw [find?, split, List.find?_append, List.find?_cons, resembles_refl]
  cases older.find? fun entry => resembles entry.command held.command <;> rfl

end Store

/-- The mappings that a report records. -/
def reported (action report : String) : List Mapping :=
  (children report).map fun child => ⟨key child, key action⟩

theorem entries_insertAll {store : Store} (kept : WellKept store.entries) (action : String)
    (children : List String) :
    (insertAll store action children).2.entries =
      (children.map fun child => ⟨key child, action⟩).foldl upsert store.entries := by
  induction children generalizing store with
  | nil => rfl
  | cons child rest ih =>
    rw [List.map_cons, List.foldl_cons, ← Store.entries_insert kept]
    exact ih (Store.wellKept_insert kept (key child) action)

section

variable {φ : Type} [FileSystem φ]

theorem entries_save (store : Store) (files : φ) :
    (store.save files).2.1.entries = store.entries := by
  unfold Store.save
  split
  · rfl
  · split
    · rfl
    · rename_i path place
      generalize Store.writeTo files path store.entries = result
      obtain ⟨outcome, after⟩ := result
      cases outcome <;> rfl

theorem entries_update {cache : IconCache} (kept : WellKept cache.store.entries) (files : φ)
    (action report : String) :
    (cache.update files action report).2.1.store.entries =
      (reported action report).foldl upsert cache.store.entries := by
  have recorded := entries_insertAll kept (key action) (children report)
  unfold IconCache.update
  generalize insertAll cache.store (key action) (children report) = result at recorded ⊢
  obtain ⟨changed, store⟩ := result
  have saved := entries_save store files
  dsimp only at recorded ⊢
  split
  · generalize store.save files = result at saved ⊢
    obtain ⟨outcome, store, after⟩ := result
    cases outcome <;> exact saved.trans recorded
  · exact recorded

/-- **What is found for the children of a report.** Whatever becomes of the saving, a child's
program is in the store after the report, unless it was in it before and too old for what was new;
and as long as it is, the action that was reported is found for it, or that of the oldest among the
older programs that are alike. -/
theorem found_after_update {cache next : IconCache} {files rest : φ} {action report : String}
    {outcome : Except SaveError Bool} (kept : WellKept cache.store.entries)
    (updated : cache.update files action report = (outcome, next, rest))
    (few : ((children report).map key).toFinset.card ≤ capacity) {child : String}
    (among : child ∈ children report) :
    (key child ∈ next.store.entries.map (·.command) ↔
        key child ∈ fresh cache.store.entries (reported action report) ∨
          ∃ older held newer, cache.store.entries = older ++ held :: newer ∧
            held.command = key child ∧
            newer.length + (fresh cache.store.entries (reported action report)).length <
              capacity) ∧
      (key child ∈ next.store.entries.map (·.command) →
        ∃ older newer, next.store.entries = older ++ ⟨key child, key action⟩ :: newer ∧
          next.store.find? (key child) =
            some (((older.find? fun entry => resembles entry.command (key child)).map
              (·.action)).getD (key action))) := by
  have entries := entries_update kept files action report
  rw [updated] at entries
  dsimp only at entries
  have commands : (reported action report).map (·.command) = (children report).map key := by
    rw [reported, List.map_map]
    rfl
  have recorded : key child ∈ (reported action report).map (·.command) := by
    rw [commands]
    exact List.mem_map_of_mem among
  have alone (mapping : Mapping) (member : mapping ∈ reported action report) :
      mapping.action = key action := by
    obtain ⟨other, -, rfl⟩ := List.mem_map.mp member
    rfl
  refine ⟨?_, fun there => ?_⟩
  · rw [entries]
    exact mem_commands_foldl_upsert_iff kept (by rwa [commands]) recorded
  · obtain ⟨held, member, same⟩ := List.mem_map.mp there
    obtain ⟨older, newer, split⟩ := List.append_of_mem member
    have action_eq : held.action = key action :=
      action_of_mem_foldl_upsert alone (entries ▸ member) (same ▸ recorded)
    have whole : held = ⟨key child, key action⟩ := by rw [← same, ← action_eq]
    rw [whole] at split
    exact ⟨older, newer, split, Store.find?_split split⟩

end

/-! ### Programs that are not found -/

/-- A cache that has taken in a report of a program with a long name. -/
def wrapped : Except SaveError Bool × IconCache × Tree :=
  (load Tree.empty homely).update Tree.empty "dtwrap" "xterm-wrapper"

theorem entries_wrapped : wrapped.2.1.store.entries = [⟨"xterm-wrapper", "dtwrap"⟩] := by cbv

theorem wellKept_wrapped : WellKept wrapped.2.1.store.entries := by
  rw [entries_wrapped]
  exact ⟨List.nodup_singleton _, by decide⟩

/-- Of two children the one is found for its action, the other for that of the long name. -/
theorem found_beside_wrapper :
    WellKept wrapped.2.1.store.entries ∧
      ((children "xterm\nvi").map key).toFinset.card ≤ capacity ∧
      "vi" ∈ children "xterm\nvi" ∧
      ∃ older newer, (wrapped.2.1.update wrapped.2.2 "dtterm" "xterm\nvi").2.1.store.entries =
          older ++ ⟨key "vi", key "dtterm"⟩ :: newer ∧
        (wrapped.2.1.update wrapped.2.2 "dtterm" "xterm\nvi").2.1.store.find? (key "vi") =
          some (((older.find? fun entry => resembles entry.command (key "vi")).map
            (·.action)).getD (key "dtterm")) := by
  have few : ((children "xterm\nvi").map key).toFinset.card ≤ capacity := by
    have names : (children "xterm\nvi").map key = ["xterm", "vi"] := by cbv
    rw [names]
    decide
  have among : "vi" ∈ children "xterm\nvi" := by
    have names : children "xterm\nvi" = ["xterm", "vi"] := by cbv
    rw [names]
    decide
  have there : key "vi" ∈ (wrapped.2.1.update wrapped.2.2 "dtterm"
      "xterm\nvi").2.1.store.entries.map (·.command) := by
    have names : (wrapped.2.1.update wrapped.2.2 "dtterm" "xterm\nvi").2.1.store.entries.map
        (·.command) = ["xterm-wrapper", "xterm", "vi"] := by cbv
    have name : key "vi" = "vi" := by cbv
    rw [names, name]
    decide
  exact ⟨wellKept_wrapped, few, among,
    (found_after_update wellKept_wrapped rfl few among).2 there⟩

/-- A store without a file takes every report. -/
theorem isOk_update_of_none {cache : IconCache} (nowhere : cache.store.path = none)
    (action report : String) : (cache.update Tree.empty action report).1.isOk := by
  have place := (recorded_insertAll cache.store (key action) (children report)).path
  unfold IconCache.update
  generalize insertAll cache.store (key action) (children report) = result at place ⊢
  obtain ⟨changed, store⟩ := result
  have unsaved : (store.save Tree.empty).1 = .ok false := by
    rw [Store.save]
    split
    · rfl
    · rw [place.trans nowhere]
  dsimp only
  split
  · generalize store.save Tree.empty = result at unsaved ⊢
    obtain ⟨outcome, store, after⟩ := result
    rw [show outcome = .ok false from unsaved]
    rfl
  · rfl

/-- Programs named by one letter, again and again, each once more often than the one before. -/
def strangers : List Mapping :=
  (List.range 254).map fun n => ⟨String.ofList (List.replicate (n + 1) 'c'), "dtwrap"⟩

theorem commands_strangers {command : String} (member : command ∈ strangers.map (·.command)) :
    command.toList.head? = some 'c' := by
  rw [strangers, List.map_map] at member
  obtain ⟨n, -, rfl⟩ := List.mem_map.mp member
  simp [List.replicate_succ]

theorem nodup_strangers : (strangers.map (·.command)).Nodup := by
  rw [strangers, List.map_map]
  refine List.nodup_range.map fun first second same => ?_
  have lengths := congrArg (fun name => name.toList.length) same
  simpa using lengths

/-- The mappings of a full store: a program with a short name, one in whose name it stands, and
others. -/
def crowd : List Mapping :=
  ⟨"a", "dtwrap"⟩ :: ⟨"ab", "dtwrap"⟩ :: strangers

theorem length_crowd : crowd.length = capacity := by
  simp [crowd, strangers, capacity]

theorem wellKept_crowd : WellKept crowd := by
  refine ⟨?_, Nat.le_of_eq length_crowd⟩
  have other (name : String) (differs : name.toList.head? ≠ some 'c') :
      name ∉ strangers.map (·.command) := fun member => differs (commands_strangers member)
  rw [crowd, List.map_cons, List.map_cons, List.nodup_cons, List.nodup_cons, List.mem_cons]
  exact ⟨not_or.mpr ⟨by decide, other "a" (by decide)⟩, other "ab" (by decide),
    nodup_strangers⟩

/-- A cache without icons and without a file, whose store is full. -/
def crowded : IconCache :=
  { catalog := [], store := { path := none, entries := crowd, dirty := true } }

/-- The store holds what was recorded into an empty one. -/
theorem entries_crowded :
    ((Store.empty none).insertEach crowd).2.entries = crowded.store.entries := by
  rw [Store.entries_insertEach wellKept_nil]
  exact foldl_upsert_of_distinct wellKept_crowd

/-- The short name is recorded where it stands, as the oldest, and so has to leave for a new one. -/
theorem entries_crowded_update :
    (crowded.update Tree.empty "dtterm" "a\nb").2.1.store.entries =
      ⟨"ab", "dtwrap"⟩ :: strangers ++ [⟨"b", "dtterm"⟩] := by
  have both : reported "dtterm" "a\nb" = [⟨"a", "dtterm"⟩, ⟨"b", "dtterm"⟩] := by cbv
  have kept : WellKept ([] ++ ⟨"a", "dtwrap"⟩ :: (⟨"ab", "dtwrap"⟩ :: strangers)) :=
    wellKept_crowd
  have first :
      upsert crowd ⟨"a", "dtterm"⟩ = ⟨"a", "dtterm"⟩ :: ⟨"ab", "dtwrap"⟩ :: strangers :=
    upsert_split kept rfl
  have still := wellKept_crowd.upsert ⟨"a", "dtterm"⟩
  have full : (upsert crowd ⟨"a", "dtterm"⟩).length = capacity := by
    rw [first, ← length_crowd, crowd, List.length_cons, List.length_cons, List.length_cons,
      List.length_cons]
  have absent : "b" ∉ (upsert crowd ⟨"a", "dtterm"⟩).map (·.command) := by
    rw [first, List.map_cons, List.map_cons, List.mem_cons, List.mem_cons]
    exact not_or.mpr ⟨by decide, not_or.mpr ⟨by decide, fun member =>
      absurd (commands_strangers member) (by decide)⟩⟩
  have started : WellKept crowded.store.entries := wellKept_crowd
  rw [entries_update started, both, List.foldl_cons, List.foldl_cons, List.foldl_nil]
  show upsert (upsert crowd ⟨"a", "dtterm"⟩) ⟨"b", "dtterm"⟩ = _
  rw [upsert_absent still absent, if_pos full, first]
  rfl

/-- **Recorded and not found.** An older program with a longer name is taken for the one recorded;
and of two programs recorded in one go, one that is the oldest has to leave for the other. -/
theorem recorded_not_found :
    key "dtterm" = "dtterm" ∧
      ((wrapped.2.1.update wrapped.2.2 "dtterm" "xterm").1 = .ok true ∧
        ((children "xterm").map key).toFinset.card ≤ capacity ∧ "xterm" ∈ children "xterm" ∧
        (wrapped.2.1.update wrapped.2.2 "dtterm" "xterm").2.1.store.find? (key "xterm") =
          some "dtwrap") ∧
      ((Store.empty none).insertEach crowd).2.entries = crowded.store.entries ∧
        (crowded.update Tree.empty "dtterm" "a\nb").1.isOk ∧
        ((children "a\nb").map key).toFinset.card ≤ capacity ∧ "a" ∈ children "a\nb" ∧
        (crowded.update Tree.empty "dtterm" "a\nb").2.1.store.find? (key "a") =
          some "dtwrap" := by
  refine ⟨by cbv, ⟨by cbv, ?_, ?_, by cbv⟩, entries_crowded, ?_, ?_, ?_, ?_⟩
  · have names : (children "xterm").map key = ["xterm"] := by cbv
    rw [names]
    decide
  · have names : children "xterm" = ["xterm"] := by cbv
    rw [names]
    decide
  · exact isOk_update_of_none rfl "dtterm" "a\nb"
  · have names : (children "a\nb").map key = ["a", "b"] := by cbv
    rw [names]
    decide
  · have names : children "a\nb" = ["a", "b"] := by cbv
    rw [names]
    decide
  · have alike : resembles "ab" "a" = true := by decide +kernel
    have name : key "a" = "a" := by cbv
    rw [Store.find?, entries_crowded_update, name, List.cons_append, List.find?_cons, alike]
    rfl

end LaunchSupervisor.IconCache
