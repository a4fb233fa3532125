import LaunchSupervisor.Proofs.Files.Contents
import Mathlib.Data.Finmap

/-!
**A file system in memory is a plain map.** Files and directories share one table, directories come
into being with what lies in them, and a file that is moved is taken out and put back. Yet whatever
is asked for and in whatever order, the files hold what a finite map from places to bytes holds that
is changed in the plainest way; a call that fails changes nothing; and all changes are noted.

* `Call`: what is asked of a file system, in order to set it up or by those who use it.
* `Call.applied`: what a call makes of a map of files.
* `Ends`, `Mirrors.ends`: how a call can end.
* `Mirrors.perform`, `mirrors_after`: one call and any number of calls, on the tree and on the map.
* `refines_plain_map`: the tree against the map, after any calls.
-/

namespace LaunchSupervisor.Tree

/-! ### Calls -/

/-- What is asked of a file system in memory. The first three set it up. Looking at it does not
change it, so that is no call. -/
inductive Call where
  | addFile (path : Path) (contents : List UInt8)
  | addDirectory (path : Path)
  | failOn (path : Path)
  | write (path : Path) (contents : List UInt8)
  | append (path : Path) (contents : List UInt8)
  | restrict (path : Path)
  | remove (path : Path)
  | rename (source target : Path)
  | makeDirectory (path : Path)

/-- How a call ends, and the file system after it. -/
def Call.perform (tree : Tree) : Call → Except FileError Unit × Tree
  | .addFile path contents => (.ok (), tree.addFile path contents)
  | .addDirectory path => (.ok (), tree.addDirectory path)
  | .failOn path => (.ok (), tree.failOn path)
  | .write path contents => tree.write path contents
  | .append path contents => tree.append path contents
  | .restrict path => tree.restrict path
  | .remove path => tree.remove path
  | .rename source target => tree.rename source target
  | .makeDirectory path => tree.makeDirectory path

/-- The file system after calls, from the beginning. -/
def after (calls : List Call) : Tree :=
  calls.foldl (fun tree call => (call.perform tree).2) empty

/-- The change that a call asks for. -/
def Call.change? : Call → Option FileChange
  | .addFile _ _ | .addDirectory _ | .failOn _ => none
  | .write path _ => some (.write path)
  | .append path _ => some (.append path)
  | .restrict path => some (.restrict path)
  | .remove path => some (.remove path)
  | .rename source target => some (.rename source target)
  | .makeDirectory path => some (.makeDirectory path)

/-! ### The same on a map -/

/-- What the files at some places hold. -/
abbrev FileMap := Finmap fun _ : Place => List UInt8

/-- **A plain file system**: what its files hold, and the places on which changes fail. -/
structure Plain where
  files : FileMap
  failing : Finset Place

namespace Call

/-- The paths that must not be marked as failing. -/
def subjects : Call → List Path
  | .addFile _ _ | .addDirectory _ | .failOn _ => []
  | .write path _ | .append path _ | .restrict path | .remove path | .makeDirectory path => [path]
  | .rename source target => [source, target]

/-- What else a call takes to succeed: there is a file to be removed or moved, and anything at all
where access is restricted. -/
def Possible (files : FileMap) (stands : Path → Prop) : Call → Prop
  | .restrict path => stands path
  | .remove path | .rename path _ => path.place ∈ files
  | .addFile _ _ | .addDirectory _ | .failOn _ | .write _ _ | .append _ _ | .makeDirectory _ => True

/-- **What a call makes of the files.** -/
def applied (files : FileMap) : Call → FileMap
  | .addFile path contents | .write path contents => files.insert path.place contents
  | .append path contents =>
    files.insert path.place ((files.lookup path.place).getD [] ++ contents)
  | .remove path => files.erase path.place
  | .rename source target =>
    match files.lookup source.place with
    | some contents => (files.erase source.place).insert target.place contents
    | none => files
  | .addDirectory _ | .failOn _ | .restrict _ | .makeDirectory _ => files

/-- The places that fail after a call. -/
def marked (failing : Finset Place) : Call → Finset Place
  | .failOn path => insert path.place failing
  | .addFile _ _ | .addDirectory _ | .write _ _ | .append _ _ | .restrict _ | .remove _
  | .rename _ _ | .makeDirectory _ => failing

end Call

namespace Plain

/-- A plain file system after a call. -/
def step (plain : Plain) (call : Call) : Plain :=
  { files :=
      if ∃ path ∈ call.subjects, path.place ∈ plain.failing then plain.files
      else call.applied plain.files
    failing := call.marked plain.failing }

/-- A plain file system after calls, from the beginning. -/
def after (calls : List Call) : Plain :=
  calls.foldl step ⟨∅, ∅⟩

end Plain

/-! ### What stands at a path -/

/-- There is a file or a directory at a path. -/
def Stands (tree : Tree) (path : Path) : Prop :=
  tree.isFile path ∨ tree.isDirectory path

section

variable {tree : Tree} {path : Path}

theorem stands_iff : tree.Stands path ↔ (tree.entry? path.place).isSome := by
  unfold Stands isFile isDirectory
  cases tree.entry? path.place with
  | none => simp
  | some entry => cases entry <;> simp

theorem read_eq_ok_iff {contents : List UInt8} :
    tree.read path = .ok contents ↔ tree.contents path = some contents := by
  rw [contents_eq_some_iff]
  unfold read
  split <;> rename_i found <;> simp [found]

theorem contents_eq_none_of_directory {names : List String}
    (found : tree.entry? path.place = some (.directory names)) : tree.contents path = none := by
  rw [contents, found]

theorem contents_eq_none_of_none (found : tree.entry? path.place = none) :
    tree.contents path = none := by
  rw [contents, found]

/-- A file that is taken out is gone, and all others stay. -/
theorem fileAt?_taken (entries : List (Place × Entry)) (taken place : Place) :
    fileAt? (unlink (drop entries taken) taken) place =
      if place = taken then none else fileAt? entries place := by
  rw [fileAt?_unlink]
  split
  · rename_i same
    rw [same, fileAt?, lookup_drop_self]
  · rename_i different
    exact fileAt?_drop_other entries different

variable (tree path) in
theorem changes_addFile (contents : List UInt8) :
    (tree.addFile path contents).changes = tree.changes := by
  unfold addFile
  split <;> rfl

variable (tree path) in
theorem failing_addFile (contents : List UInt8) :
    (tree.addFile path contents).failing = tree.failing := by
  unfold addFile
  split <;> rfl

end

/-! ### Maps of files -/

theorem lookup_insert_eq (files : FileMap) (place other : Place) (contents : List UInt8) :
    (files.insert place contents).lookup other =
      if other = place then some contents else files.lookup other := by
  split
  · rename_i same
    rw [same, Finmap.lookup_insert]
  · rename_i different
    exact Finmap.lookup_insert_of_ne files different

theorem lookup_erase_eq (files : FileMap) (place other : Place) :
    (files.erase place).lookup other = if other = place then none else files.lookup other := by
  split
  · rename_i same
    rw [same, Finmap.lookup_erase]
  · rename_i different
    exact Finmap.lookup_erase_ne different

/-! ### How a call can end -/

/-- A tree holds the files of a plain file system, and changes fail on the same places. -/
structure Mirrors (tree : Tree) (plain : Plain) : Prop where
  contents : ∀ path, tree.contents path = plain.files.lookup path.place
  failing : ∀ path, tree.fails path ↔ path.place ∈ plain.failing

/-- A call is granted: no path it is about is marked as failing, and it is possible. -/
def Call.Granted (tree : Tree) (plain : Plain) (call : Call) : Prop :=
  (∀ path ∈ call.subjects, path.place ∉ plain.failing) ∧
    call.Possible plain.files tree.Stands

/-- The tree with a call noted. -/
def Call.noted (tree : Tree) (call : Call) : Tree :=
  { tree with changes := tree.changes ++ call.change?.toList }

/-- **How a call can end**: it fails and is noted, and nothing else happens; or it is noted and does
to the tree what it does to the map. -/
inductive Ends (tree : Tree) (plain : Plain) (call : Call) :
    Except FileError Unit × Tree → Prop where
  | failed (error : FileError) (blocked : ¬ call.Granted tree plain) :
    Ends tree plain call (.error error, call.noted tree)
  | done {next : Tree} (granted : call.Granted tree plain)
    (changes : next.changes = (call.noted tree).changes)
    (mirrors : Mirrors next ⟨call.applied plain.files, call.marked plain.failing⟩) :
    Ends tree plain call (.ok (), next)

namespace Mirrors

variable {tree next : Tree} {plain : Plain} {path : Path} (mirrors : Mirrors tree plain)

include mirrors

theorem mem_files {contents : List UInt8} (found : tree.entry? path.place = some (.file contents)) :
    path.place ∈ plain.files := by
  have held := contents_eq_some_iff.mpr found
  rw [mirrors.contents] at held
  exact Finmap.mem_of_lookup_eq_some held

theorem not_mem_files (unheld : tree.contents path = none) : path.place ∉ plain.files := by
  rwa [← Finmap.lookup_eq_none, ← mirrors.contents]

theorem passes (free : ¬ tree.fails path) : path.place ∉ plain.failing :=
  fun member => free ((mirrors.failing path).mpr member)

theorem refused {call : Call} (fails : tree.fails path) (subject : path ∈ call.subjects) :
    Ends tree plain call (.error (.refused path), call.noted tree) :=
  .failed _ fun granted => granted.1 path subject ((mirrors.failing path).mp fails)

theorem with_files {files : FileMap} (failing : next.failing = tree.failing)
    (contents : ∀ path, next.contents path = files.lookup path.place) :
    Mirrors next ⟨files, plain.failing⟩ := by
  refine ⟨contents, fun path => ?_⟩
  rw [fails, failing]
  exact mirrors.failing path

/-- What a file that is put in a tree does to the map. -/
theorem addFile (path : Path) (contents : List UInt8) :
    Mirrors (tree.addFile path contents)
      ⟨plain.files.insert path.place contents, plain.failing⟩ := by
  refine mirrors.with_files (failing_addFile ..) fun other => ?_
  rw [contents_addFile, lookup_insert_eq, mirrors.contents]

/-- What a file that is taken out of a tree does to the map. -/
theorem taken (path : Path) :
    Mirrors { tree with entries := unlink (drop tree.entries path.place) path.place }
      ⟨plain.files.erase path.place, plain.failing⟩ := by
  refine mirrors.with_files rfl fun other => ?_
  rw [contents_eq, fileAt?_taken, lookup_erase_eq, ← mirrors.contents, contents_eq]

theorem record (change : FileChange) : Mirrors (tree.record change) plain :=
  ⟨mirrors.contents, mirrors.failing⟩

/-! ### Call by call -/

theorem ends_write (path : Path) (contents : List UInt8) :
    Ends tree plain (.write path contents) (tree.write path contents) := by
  unfold write
  split
  · rename_i fails
    exact mirrors.refused fails (List.mem_singleton_self path)
  · rename_i free
    refine .done ⟨List.forall_mem_singleton.mpr (mirrors.passes free), trivial⟩
      (changes_addFile ..) ?_
    exact (mirrors.record _).addFile path contents

theorem ends_append (path : Path) (contents : List UInt8) :
    Ends tree plain (.append path contents) (tree.append path contents) := by
  unfold append
  split
  · rename_i fails
    exact mirrors.refused fails (List.mem_singleton_self path)
  · rename_i free
    refine .done ⟨List.forall_mem_singleton.mpr (mirrors.passes free), trivial⟩
      (changes_addFile ..) ?_
    rw [mirrors.contents]
    exact (mirrors.record _).addFile path _

theorem ends_restrict (path : Path) :
    Ends tree plain (.restrict path) (tree.restrict path) := by
  unfold restrict
  split
  · rename_i fails
    exact mirrors.refused fails (List.mem_singleton_self path)
  · rename_i free
    split
    · rename_i missing
      refine .failed _ fun granted => ?_
      have stands := stands_iff.mp granted.2
      rw [Option.isNone_iff_eq_none.mp missing] at stands
      cases stands
    · rename_i there
      refine .done ⟨List.forall_mem_singleton.mpr (mirrors.passes free), ?_⟩ rfl
        (mirrors.record _)
      exact stands_iff.mpr (by simpa [Option.isSome_iff_ne_none] using there)

theorem ends_remove (path : Path) : Ends tree plain (.remove path) (tree.remove path) := by
  unfold remove
  split
  · rename_i fails
    exact mirrors.refused fails (List.mem_singleton_self path)
  · rename_i free
    split
    · rename_i contents found
      exact .done ⟨List.forall_mem_singleton.mpr (mirrors.passes free), mirrors.mem_files found⟩
        rfl ((mirrors.record _).taken path)
    · rename_i names found
      exact .failed _ fun granted =>
        mirrors.not_mem_files (contents_eq_none_of_directory found) granted.2
    · rename_i found
      exact .failed _ fun granted =>
        mirrors.not_mem_files (contents_eq_none_of_none found) granted.2

theorem ends_rename (source target : Path) :
    Ends tree plain (.rename source target) (tree.rename source target) := by
  unfold rename
  split
  · rename_i fails
    exact mirrors.refused fails List.mem_cons_self
  · rename_i sourceFree
    split
    · rename_i fails
      exact mirrors.refused fails (List.mem_cons_of_mem _ (List.mem_singleton_self target))
    · rename_i targetFree
      split
      · rename_i contents found
        refine .done ⟨?_, mirrors.mem_files found⟩ (changes_addFile ..) ?_
        · exact List.forall_mem_cons.mpr ⟨mirrors.passes sourceFree,
            List.forall_mem_singleton.mpr (mirrors.passes targetFree)⟩
        · have held : plain.files.lookup source.place = some contents := by
            rw [← mirrors.contents, contents_eq_some_iff, found]
          rw [Call.applied, held]
          exact ((mirrors.record _).taken source).addFile target contents
      · rename_i names found
        exact .failed _ fun granted =>
          mirrors.not_mem_files (contents_eq_none_of_directory found) granted.2
      · rename_i found
        exact .failed _ fun granted =>
          mirrors.not_mem_files (contents_eq_none_of_none found) granted.2

theorem ends_makeDirectory (path : Path) :
    Ends tree plain (.makeDirectory path) (tree.makeDirectory path) := by
  unfold makeDirectory
  split
  · rename_i fails
    exact mirrors.refused fails (List.mem_singleton_self path)
  · rename_i free
    refine .done ⟨List.forall_mem_singleton.mpr (mirrors.passes free), trivial⟩ rfl ?_
    refine mirrors.with_files rfl fun other => ?_
    rw [contents_addDirectory]
    exact mirrors.contents other

theorem failOn (path : Path) :
    Mirrors (tree.failOn path) ⟨plain.files, insert path.place plain.failing⟩ := by
  refine ⟨mirrors.contents, fun other => ?_⟩
  have before := mirrors.failing other
  simp only [fails, List.contains_iff_mem] at before
  simp [fails, Tree.failOn, before]

/-- **Every call ends as it can.** -/
theorem ends (call : Call) : Ends tree plain call (call.perform tree) := by
  cases call with
  | addFile path contents =>
    refine .done ⟨nofun, trivial⟩ ?_ (mirrors.addFile path contents)
    rw [changes_addFile]
    exact (List.append_nil _).symm
  | addDirectory path =>
    refine .done ⟨nofun, trivial⟩ (List.append_nil _).symm
      (mirrors.with_files rfl fun other => ?_)
    rw [contents_addDirectory]
    exact mirrors.contents other
  | failOn path => exact .done ⟨nofun, trivial⟩ (List.append_nil _).symm (mirrors.failOn path)
  | write path contents => exact mirrors.ends_write path contents
  | append path contents => exact mirrors.ends_append path contents
  | restrict path => exact mirrors.ends_restrict path
  | remove path => exact mirrors.ends_remove path
  | rename source target => exact mirrors.ends_rename source target
  | makeDirectory path => exact mirrors.ends_makeDirectory path

end Mirrors

/-! ### Any number of calls -/

variable {tree : Tree} {plain : Plain}

/-- A call that does not go through leaves the map as it is, and marks nothing. -/
theorem Plain.step_of_not_granted {call : Call} (blocked : ¬ call.Granted tree plain) :
    plain.step call = plain := by
  have marked : call.marked plain.failing = plain.failing := by
    cases call with
    | failOn path => exact absurd ⟨nofun, trivial⟩ blocked
    | _ => rfl
  unfold Plain.step
  rw [marked]
  split
  · rfl
  · rename_i unmarked
    have free : ∀ path ∈ call.subjects, path.place ∉ plain.failing :=
      fun path subject fails => unmarked ⟨path, subject, fails⟩
    have impossible := fun possible => blocked ⟨free, possible⟩
    have applied : call.applied plain.files = plain.files := by
      cases call with
      | restrict path => rfl
      | remove path =>
        refine Finmap.ext_lookup fun place => ?_
        rw [Call.applied, lookup_erase_eq]
        split
        · rename_i same
          rw [same, Finmap.lookup_eq_none.mpr impossible]
        · rfl
      | rename source target => rw [Call.applied, Finmap.lookup_eq_none.mpr impossible]
      | _ => exact absurd trivial impossible
    rw [applied]

/-- **One call, on the tree and on the map.** -/
theorem Mirrors.perform (mirrors : Mirrors tree plain) (call : Call) :
    Mirrors (call.perform tree).2 (plain.step call) := by
  have ends := mirrors.ends call
  generalize call.perform tree = result at ends
  cases ends with
  | failed error blocked =>
    rw [Plain.step_of_not_granted blocked]
    exact ⟨mirrors.contents, mirrors.failing⟩
  | done granted changes next =>
    have free : ¬ ∃ path ∈ call.subjects, path.place ∈ plain.failing :=
      fun ⟨path, subject, marked⟩ => granted.1 path subject marked
    rw [Plain.step, if_neg free]
    exact next

theorem Mirrors.changes (mirrors : Mirrors tree plain) (call : Call) :
    (call.perform tree).2.changes = tree.changes ++ call.change?.toList := by
  have ends := mirrors.ends call
  generalize call.perform tree = result at ends
  cases ends with
  | failed error blocked => rfl
  | done granted changes next => exact changes

theorem mirrors_empty : Mirrors empty ⟨∅, ∅⟩ := by
  refine ⟨fun path => ?_, fun path => ?_⟩
  · have nothing : fileAt? empty.entries path.place = none := by
      unfold fileAt? empty
      cases root : path.place == [.root] <;> simp [List.lookup_cons, root]
    rw [contents_eq, nothing]
    rfl
  · simp [fails, empty]

/-- **Any number of calls, on the tree and on the map.** -/
theorem mirrors_after (calls : List Call) : Mirrors (after calls) (Plain.after calls) := by
  have run (tree : Tree) (plain : Plain) (mirrors : Mirrors tree plain) :
      Mirrors (calls.foldl (fun tree call => (call.perform tree).2) tree)
        (calls.foldl Plain.step plain) := by
    induction calls generalizing tree plain with
    | nil => exact mirrors
    | cons call rest ih => exact ih _ _ (mirrors.perform call)
  exact run _ _ mirrors_empty

/-- Each call that asks for a change is noted once, in the order of the calls. -/
theorem changes_after (calls : List Call) :
    (after calls).changes = calls.filterMap Call.change? := by
  have run (tree : Tree) (plain : Plain) (mirrors : Mirrors tree plain) :
      (calls.foldl (fun tree call => (call.perform tree).2) tree).changes =
        tree.changes ++ calls.filterMap Call.change? := by
    induction calls generalizing tree plain with
    | nil => exact (List.append_nil _).symm
    | cons call rest ih =>
      rw [List.foldl_cons, ih _ _ (mirrors.perform call), mirrors.changes, List.append_assoc]
      congr 1
      cases asked : call.change? <;> simp [asked]
  exact run _ _ mirrors_empty

/-- **A file system in memory is a plain map.** After any calls, its files hold what the map holds
on which the same calls were made, and are read so; and each call that asked for a change is noted
once, in order. The next call succeeds just when no path it is about is marked as failing and it is
possible; then it does to the files what it does to the map, and otherwise it leaves all files and
directories as they are. -/
theorem refines_plain_map (calls : List Call) (call : Call) :
    let tree := after calls
    let plain := Plain.after calls
    (∀ path, tree.contents path = plain.files.lookup path.place) ∧
      (∀ path contents, tree.read path = .ok contents ↔
        plain.files.lookup path.place = some contents) ∧
      tree.changes = calls.filterMap Call.change? ∧
      ((call.perform tree).1 = .ok () ↔
        (∀ path ∈ call.subjects, path.place ∉ plain.failing) ∧
          call.Possible plain.files tree.Stands) ∧
      ((call.perform tree).1 = .ok () → ∀ path, (call.perform tree).2.contents path =
        (call.applied plain.files).lookup path.place) ∧
      ((call.perform tree).1 ≠ .ok () → (call.perform tree).2.entries = tree.entries) := by
  intro tree plain
  have mirrors := mirrors_after calls
  have ends := mirrors.ends call
  refine ⟨mirrors.contents, fun path contents => ?_, changes_after calls, ?_⟩
  · rw [read_eq_ok_iff, mirrors.contents]
  · generalize call.perform (after calls) = result at ends
    cases ends with
    | failed error blocked =>
      exact ⟨iff_of_false nofun blocked, nofun, fun _ => rfl⟩
    | done granted changes next =>
      exact ⟨iff_of_true rfl granted, fun _ => next.contents, fun undone => absurd rfl undone⟩

/-- A file with another one below it, and a path on which changes fail. -/
def nested : List Call :=
  [.addFile (.ofString "/t/a") [1], .write (.ofString "/t/./a/b") [2], .failOn (.ofString "/t/x")]

/-- The upper file is moved onto itself, and the lower one cannot be moved. -/
theorem refines_plain_map_nested :
    let upper := Call.rename (.ofString "/t/a") (.ofString "/t//a")
    let lower := Call.rename (.ofString "/t/a/b") (.ofString "/t/x")
    (upper.perform (after nested)).1 = .ok () ∧
      (upper.perform (after nested)).2.contents (.ofString "/t/a") = some [1] ∧
      (upper.perform (after nested)).2.contents (.ofString "/t/a/b") = some [2] ∧
      (lower.perform (after nested)).1 ≠ .ok () ∧
      (lower.perform (after nested)).2.entries = (after nested).entries := by
  intro upper lower
  obtain ⟨-, -, -, succeeds, does, -⟩ := refines_plain_map nested upper
  obtain ⟨-, -, -, fails, -, leaves⟩ := refines_plain_map nested lower
  have moved := succeeds.mpr ⟨by decide +kernel, Finmap.lookup_isSome.mp (by decide +kernel)⟩
  have stays : (lower.perform (after nested)).1 ≠ .ok () := fun done =>
    absurd ((fails.mp done).1 (.ofString "/t/x") (by decide +kernel)) (by decide +kernel)
  refine ⟨moved, ?_, ?_, stays, leaves stays⟩
  · rw [does moved]
    decide +kernel
  · rw [does moved]
    decide +kernel

end LaunchSupervisor.Tree
