import LaunchSupervisor.Files.Tree

/-!
**What the files of a tree hold.** Directories come into being with new files and list their
entries, but none of that touches a file; so a change is known by what it does to the file it is
about.

* `contents_addFile`: a file that is put in a tree is the only one whose contents change.
* `entry?_addFile_other`: what is no directory above it stays as well.
* `contents_rename`: a file that is moved holds what it held.
-/

namespace LaunchSupervisor.Tree

/-! ### Directories do not matter -/

/-- What the file at a place holds, if there is one. -/
def fileAt? (entries : List (Place × Entry)) (place : Place) : Option (List UInt8) :=
  match entries.lookup place with
  | some (.file contents) => some contents
  | _ => none

theorem contents_eq (tree : Tree) (path : Path) :
    tree.contents path = fileAt? tree.entries path.place := rfl

theorem contents_eq_some_iff {tree : Tree} {path : Path} {held : List UInt8} :
    tree.contents path = some held ↔ tree.entry? path.place = some (.file held) := by
  unfold contents
  split
  · rename_i found
    rw [found, Option.some.injEq, Option.some.injEq, Entry.file.injEq]
  · rename_i other
    exact iff_of_false nofun fun found => other _ found

section

variable (entries : List (Place × Entry))

theorem fileAt?_put_self (place : Place) (contents : List UInt8) :
    fileAt? (put entries place (.file contents)) place = some contents := by
  rw [fileAt?, lookup_put_self]

theorem fileAt?_put_other {place other : Place} (entry : Entry) (different : place ≠ other) :
    fileAt? (put entries other entry) place = fileAt? entries place := by
  rw [fileAt?, lookup_put_other entries entry different, fileAt?]

theorem fileAt?_drop_other {place other : Place} (different : place ≠ other) :
    fileAt? (drop entries other) place = fileAt? entries place := by
  rw [fileAt?, lookup_drop_other entries different, fileAt?]

variable {entries} in
theorem fileAt?_put_directory {made : Place} (free : fileAt? entries made = none)
    (names : List String) (place : Place) :
    fileAt? (put entries made (.directory names)) place = fileAt? entries place := by
  by_cases same : place = made
  · rw [same, free, fileAt?, lookup_put_self]
  · exact fileAt?_put_other entries _ same

theorem fileAt?_link (above listed place : Place) :
    fileAt? (link entries above listed) place = fileAt? entries place := by
  unfold link
  split
  · rename_i names name holds named
    split
    · rfl
    · exact fileAt?_put_directory (by rw [fileAt?, holds]) _ place
  · rfl

theorem fileAt?_unlink (listed place : Place) :
    fileAt? (unlink entries listed) place = fileAt? entries place := by
  unfold unlink
  split
  · split
    · rename_i names holds
      exact fileAt?_put_directory (by rw [fileAt?, holds]) _ place
    · rfl
  · rfl

theorem fileAt?_ensure (made place : Place) :
    fileAt? (ensure entries made) place = fileAt? entries place := by
  have free {entries : List (Place × Entry)} {made : Place}
      (absent : ¬ (entries.lookup made).isSome) : fileAt? entries made = none := by
    rw [fileAt?, Option.not_isSome_iff_eq_none.mp absent]
  fun_induction ensure entries made with
  | case1 entries made present => rfl
  | case2 entries made absent entries' top => exact fileAt?_put_directory (free absent) _ place
  | case3 entries made absent entries' inside => exact fileAt?_put_directory (free absent) _ place
  | case4 entries made absent entries' above inside below ih =>
    rw [fileAt?_link, ih]
    exact fileAt?_put_directory (free absent) _ place

/-! ### Only what is above a place comes into being with it -/

variable {entries} in
theorem lookup_link_other {above place : Place} (different : place ≠ above) (listed : Place) :
    (link entries above listed).lookup place = entries.lookup place := by
  unfold link
  split
  · split
    · rfl
    · exact lookup_put_other _ _ different
  · rfl

theorem lookup_ensure_of_length_lt {made place : Place} (longer : made.length < place.length) :
    (ensure entries made).lookup place = entries.lookup place := by
  have ne {other : Place} (shorter : other.length < place.length) : place ≠ other :=
    fun same => absurd (same ▸ shorter) (Nat.lt_irrefl _)
  fun_induction ensure entries made with
  | case1 entries made present => rfl
  | case2 entries made absent entries' top => exact lookup_put_other _ _ (ne longer)
  | case3 entries made absent entries' inside => exact lookup_put_other _ _ (ne longer)
  | case4 entries made absent entries' above inside below ih =>
    have shorter := Nat.lt_trans (Place.length_parent_lt inside) longer
    rw [lookup_link_other (ne shorter), ih shorter]
    exact lookup_put_other _ _ (ne longer)

theorem lookup_unlink_self (place : Place) :
    (unlink entries place).lookup place = entries.lookup place := by
  unfold unlink
  split
  · rename_i above name inside named
    have different : place ≠ above := fun same =>
      absurd (same ▸ Place.length_parent_lt inside) (Nat.lt_irrefl _)
    split
    · exact lookup_put_other _ _ different
    · rfl
  · rfl

end

/-! ### What changes do to the files -/

variable (tree : Tree) (path : Path)

/-- **A file that is put in a tree** is the only one whose contents change. -/
theorem contents_addFile (contents : List UInt8) (other : Path) :
    (tree.addFile path contents).contents other =
      if other.place = path.place then some contents else tree.contents other := by
  have found : fileAt? (tree.addFile path contents).entries other.place =
      fileAt? (put tree.entries path.place (.file contents)) other.place := by
    unfold addFile
    split
    · rfl
    · rw [fileAt?_link, fileAt?_ensure]
  rw [contents_eq, found]
  split
  · rename_i same
    rw [same, fileAt?_put_self]
  · rename_i different
    rw [fileAt?_put_other _ _ different, contents_eq]

/-- What is no directory above a new file stays what it is. -/
theorem entry?_addFile_other (contents : List UInt8) {place : Place}
    (different : place ≠ path.place) (long : path.place.length ≤ place.length) :
    entry? (tree.addFile path contents) place = tree.entry? place := by
  unfold addFile entry?
  split
  · exact lookup_put_other _ _ different
  · rename_i above inside
    have shorter := Nat.lt_of_lt_of_le (Place.length_parent_lt inside) long
    have notAbove : place ≠ above := fun same => absurd (same ▸ shorter) (Nat.lt_irrefl _)
    dsimp only
    rw [lookup_link_other notAbove, lookup_ensure_of_length_lt _ shorter,
      lookup_put_other _ _ different]

theorem contents_addDirectory (other : Path) :
    (tree.addDirectory path).contents other = tree.contents other :=
  fileAt?_ensure _ _ _

theorem contents_makeDirectory (other : Path) :
    (tree.makeDirectory path).2.contents other = tree.contents other := by
  unfold makeDirectory
  dsimp only
  split
  · rfl
  · exact contents_addDirectory _ path other

variable {path} in
theorem contents_write_other (contents : List UInt8) {other : Path}
    (different : other.place ≠ path.place) :
    (tree.write path contents).2.contents other = tree.contents other := by
  unfold write
  dsimp only
  split
  · rfl
  · dsimp only
    rw [contents_addFile, if_neg different]
    rfl

variable {tree path}

theorem contents_write {contents : List UInt8} (done : (tree.write path contents).1 = .ok ()) :
    (tree.write path contents).2.contents path = some contents := by
  unfold write at done ⊢
  split at done
  · cases done
  · rename_i passes
    simp only [if_neg passes]
    rw [contents_addFile, if_pos rfl]

theorem contents_remove_other {other : Path} (different : other.place ≠ path.place) :
    (tree.remove path).2.contents other = tree.contents other := by
  unfold remove
  dsimp only
  split
  · rfl
  · split
    · rw [contents_eq, fileAt?_unlink, fileAt?_drop_other _ different, contents_eq]
    · rfl
    · rfl

theorem entries_restrict (tree : Tree) (path : Path) :
    (tree.restrict path).2.entries = tree.entries := by
  unfold restrict
  split
  · rfl
  · split <;> rfl

variable {source target : Path}

theorem entries_rename_failed {error : FileError}
    (failed : (tree.rename source target).1 = .error error) :
    (tree.rename source target).2.entries = tree.entries := by
  unfold rename at failed ⊢
  split at failed
  · rename_i refused
    rw [if_pos refused]
    rfl
  · rename_i passes
    rw [if_neg passes]
    split at failed
    · rename_i refused
      rw [if_pos refused]
      rfl
    · rename_i passes
      rw [if_neg passes]
      split at failed
      · cases failed
      · rfl
      · rfl

/-- **A file that is moved**: it is where it was moved to, and nothing is left in its old place. -/
theorem rename_done (done : (tree.rename source target).1 = .ok ()) :
    (tree.rename source target).2.contents target = tree.contents source ∧
      (source.place ≠ target.place → target.place.length ≤ source.place.length →
        entry? (tree.rename source target).2 source.place = none) := by
  unfold rename at done ⊢
  split at done
  · cases done
  · rename_i passes
    rw [if_neg passes]
    split at done
    · cases done
    · rename_i passes
      rw [if_neg passes]
      split at done
      · rename_i held found
        dsimp only
        rw [contents_addFile, if_pos rfl]
        refine ⟨by rw [contents, found], fun different long => ?_⟩
        rw [entry?_addFile_other _ _ _ different long, entry?, lookup_unlink_self,
          lookup_drop_self]
      · cases done
      · cases done

end LaunchSupervisor.Tree
