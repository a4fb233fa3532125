import LaunchSupervisor.Proofs.Files.Contents

/-!
**A file system that falters.** It is laid down beforehand how each change goes, in any pattern at
all: whether it is carried out, fails without effect or breaks off. A write that breaks off leaves
whatever is laid down in the file it was to write, and in no other. All changes are noted with their
outcome.

* `ask_done`: a change that is reported as made has been carried out.
* `keeps_ask`: what neither carrying out a change nor breaking it off destroys is kept.
* `entries_rename`, `rename_done`: a file stays as it is or is moved as a whole.
-/

namespace LaunchSupervisor

/-- How a change goes that is asked for. -/
inductive Fate where
  | carriedOut
  /-- It fails and has no effect. -/
  | refused (cause : FileError)
  /-- It fails halfway; what was to be written is then something else. -/
  | brokenOff (left : List UInt8) (cause : FileError)
deriving DecidableEq

/-- **A file system that falters.** -/
structure Faltering where
  tree : Tree
  /-- How the next changes go; those after them are carried out. -/
  fates : List Fate
  /-- The changes asked for so far, and whether each was reported as made. -/
  calls : List (FileChange × Bool)

namespace Faltering

section

variable (faltering : Faltering) (change : FileChange)
  (carryOut : Tree → Except FileError Unit × Tree) (breakOff : List UInt8 → Tree → Tree)

/-- Makes a change as is laid down. -/
def ask : Except FileError Unit × Faltering :=
  let (outcome, tree) :=
    match faltering.fates with
    | .refused cause :: _ => (.error cause, faltering.tree)
    | .brokenOff left cause :: _ => (.error cause, breakOff left faltering.tree)
    | _ => carryOut faltering.tree
  (outcome,
    { tree, fates := faltering.fates.tail, calls := faltering.calls ++ [(change, outcome.isOk)] })

variable {faltering change carryOut breakOff}

/-- **A change that is reported as made has been carried out.** -/
theorem ask_done {P : Tree → Prop} (done : (faltering.ask change carryOut breakOff).1 = .ok ())
    (carriedOut : (carryOut faltering.tree).1 = .ok () → P (carryOut faltering.tree).2) :
    P (faltering.ask change carryOut breakOff).2.tree := by
  unfold ask at done ⊢
  dsimp only at done ⊢
  split at done
  · cases done
  · cases done
  · exact carriedOut done

theorem ask_failed {P : Tree → Prop} {error : FileError}
    (failed : (faltering.ask change carryOut breakOff).1 = .error error) (idle : P faltering.tree)
    (brokenOff : ∀ left, P (breakOff left faltering.tree))
    (carriedOut : (carryOut faltering.tree).1 = .error error → P (carryOut faltering.tree).2) :
    P (faltering.ask change carryOut breakOff).2.tree := by
  unfold ask at failed ⊢
  dsimp only at failed ⊢
  split at failed
  · exact idle
  · exact brokenOff _
  · exact carriedOut failed

/-- **What neither carrying out a change nor breaking it off destroys** is kept. -/
theorem keeps_ask {P : Tree → Prop} (idle : P faltering.tree)
    (brokenOff : ∀ left, P (breakOff left faltering.tree))
    (carriedOut : P (carryOut faltering.tree).2) :
    P (faltering.ask change carryOut breakOff).2.tree := by
  cases outcome : (faltering.ask change carryOut breakOff).1 with
  | ok => exact ask_done outcome fun _ => carriedOut
  | error error => exact ask_failed outcome idle brokenOff fun _ => carriedOut

end

instance : FileSystem Faltering where
  read faltering := faltering.tree.read
  readText faltering := faltering.tree.readText
  isFile faltering := faltering.tree.isFile
  isDirectory faltering := faltering.tree.isDirectory
  list faltering := faltering.tree.list
  write faltering path contents :=
    faltering.ask (.write path) (·.write path contents) fun left tree => tree.addFile path left
  append faltering path contents :=
    faltering.ask (.append path) (·.append path contents) fun left tree =>
      tree.addFile path ((tree.contents path).getD [] ++ left)
  restrict faltering path := faltering.ask (.restrict path) (·.restrict path) fun _ tree => tree
  remove faltering path := faltering.ask (.remove path) (·.remove path) fun _ tree => tree
  rename faltering source target :=
    faltering.ask (.rename source target) (·.rename source target) fun _ tree => tree
  makeDirectory faltering path :=
    faltering.ask (.makeDirectory path) (·.makeDirectory path) fun _ tree => tree.addDirectory path

/-- The bytes of the file at a path. -/
def contents (faltering : Faltering) (path : Path) : Option (List UInt8) :=
  faltering.tree.contents path

/-! ### What is noted -/

section

variable (faltering : Faltering) (path : Path)

theorem calls_makeDirectory :
    (FileSystem.makeDirectory faltering path).2.calls = faltering.calls ++
      [(.makeDirectory path, (FileSystem.makeDirectory faltering path).1.isOk)] := rfl

theorem calls_write (contents : List UInt8) :
    (FileSystem.write faltering path contents).2.calls = faltering.calls ++
      [(.write path, (FileSystem.write faltering path contents).1.isOk)] := rfl

theorem calls_rename (target : Path) :
    (FileSystem.rename faltering path target).2.calls = faltering.calls ++
      [(.rename path target, (FileSystem.rename faltering path target).1.isOk)] := rfl

theorem calls_remove :
    (FileSystem.remove faltering path).2.calls = faltering.calls ++
      [(.remove path, (FileSystem.remove faltering path).1.isOk)] := rfl

theorem calls_restrict :
    (FileSystem.restrict faltering path).2.calls = faltering.calls ++
      [(.restrict path, (FileSystem.restrict faltering path).1.isOk)] := rfl

end

/-! ### What becomes of the files -/

section

variable (faltering : Faltering) (path : Path)

theorem contents_makeDirectory (other : Path) :
    (FileSystem.makeDirectory faltering path).2.contents other = faltering.contents other :=
  keeps_ask (P := fun tree => tree.contents other = faltering.tree.contents other) rfl
    (fun _ => Tree.contents_addDirectory _ path other) (Tree.contents_makeDirectory _ path other)

variable {path} in
theorem contents_write_other (contents : List UInt8) {other : Path}
    (different : other.place ≠ path.place) :
    (FileSystem.write faltering path contents).2.contents other = faltering.contents other := by
  refine keeps_ask (P := fun tree => tree.contents other = faltering.tree.contents other) rfl
    (fun left => ?_) (Tree.contents_write_other _ contents different)
  rw [Tree.contents_addFile, if_neg different]

theorem contents_write (contents : List UInt8)
    (done : (FileSystem.write faltering path contents).1 = .ok ()) :
    (FileSystem.write faltering path contents).2.contents path = some contents :=
  ask_done (P := fun tree => tree.contents path = some contents) done Tree.contents_write

variable {path} in
theorem contents_remove_other {other : Path} (different : other.place ≠ path.place) :
    (FileSystem.remove faltering path).2.contents other = faltering.contents other :=
  keeps_ask (P := fun tree => tree.contents other = faltering.tree.contents other) rfl
    (fun _ => rfl) (Tree.contents_remove_other different)

theorem entries_restrict :
    (FileSystem.restrict faltering path).2.tree.entries = faltering.tree.entries :=
  keeps_ask (P := fun tree => tree.entries = faltering.tree.entries) rfl
    (fun _ => rfl) (Tree.entries_restrict _ path)

/-- A file that cannot be moved stays where it is. -/
theorem entries_rename (target : Path) (error : FileError)
    (failed : (FileSystem.rename faltering path target).1 = .error error) :
    (FileSystem.rename faltering path target).2.tree.entries = faltering.tree.entries :=
  ask_failed (P := fun tree => tree.entries = faltering.tree.entries) failed rfl (fun _ => rfl)
    Tree.entries_rename_failed

theorem rename_done (target : Path)
    (done : (FileSystem.rename faltering path target).1 = .ok ()) :
    (FileSystem.rename faltering path target).2.contents target = faltering.contents path ∧
      (path.place ≠ target.place → target.place.length ≤ path.place.length →
        Tree.entry? (FileSystem.rename faltering path target).2.tree path.place = none) :=
  ask_done (P := fun tree => tree.contents target = faltering.tree.contents path ∧
    (path.place ≠ target.place → target.place.length ≤ path.place.length →
      tree.entry? path.place = none)) done Tree.rename_done

end

end Faltering

end LaunchSupervisor
