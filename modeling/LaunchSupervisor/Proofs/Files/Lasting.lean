import LaunchSupervisor.Proofs.Files.Contents
import LaunchSupervisor.Proofs.Text.Decoding

/-!
**File systems that keep what they are given.** What was written is read back, and a file that was
moved or restricted still holds what it held, as long as the operation succeeded; an operation that
fails may do anything but leave the file system in disorder.

* `Lasting`: the laws, as far as a file is concerned that is written, moved and read.
* `Tree.entry?_addFile`: a file that is put in a tree is found there.
-/

namespace LaunchSupervisor

/-- **A file system that keeps what it is given.** -/
class Lasting (φ : Type) [FileSystem φ] where
  /-- Whether a file system is in order. -/
  Sound : φ → Prop
  sound_makeDirectory {files : φ} (path : Path) (sound : Sound files) :
    Sound (FileSystem.makeDirectory files path).2
  sound_write {files : φ} (path : Path) (contents : List UInt8) (sound : Sound files) :
    Sound (FileSystem.write files path contents).2
  sound_rename {files : φ} {source : Path} (target : Path) {contents : List UInt8}
    (sound : Sound files) (held : FileSystem.read files source = .ok contents) :
    Sound (FileSystem.rename files source target).2
  sound_restrict {files : φ} (path : Path) (sound : Sound files) :
    Sound (FileSystem.restrict files path).2
  sound_remove {files : φ} (path : Path) (sound : Sound files) :
    Sound (FileSystem.remove files path).2
  /-- A text is its bytes. -/
  readText_of_read {files : φ} {path : Path} {text : List Char}
    (held : FileSystem.read files path = .ok (Utf8.encode text)) :
    FileSystem.readText files path = .ok (.ofList text)
  read_write {files : φ} {path : Path} {contents : List UInt8} (sound : Sound files)
    (done : (FileSystem.write files path contents).1 = .ok ()) :
    FileSystem.read (FileSystem.write files path contents).2 path = .ok contents
  read_rename {files : φ} {source target : Path} {contents : List UInt8} (sound : Sound files)
    (held : FileSystem.read files source = .ok contents)
    (done : (FileSystem.rename files source target).1 = .ok ()) :
    FileSystem.read (FileSystem.rename files source target).2 target = .ok contents
  read_restrict {files : φ} {path : Path} {contents : List UInt8} (sound : Sound files)
    (held : FileSystem.read files path = .ok contents)
    (done : (FileSystem.restrict files path).1 = .ok ()) :
    FileSystem.read (FileSystem.restrict files path).2 path = .ok contents

/-! ### The file system in memory -/

namespace Tree

variable {contents : List UInt8}

/-- **A file that is put in a tree is found there.** -/
theorem entry?_addFile (tree : Tree) (path : Path) (contents : List UInt8) :
    entry? (tree.addFile path contents) path.place = some (.file contents) := by
  have held := contents_addFile tree path contents path
  rw [if_pos rfl] at held
  exact contents_eq_some_iff.mp held

theorem read_addFile (tree : Tree) (path : Path) (contents : List UInt8) :
    (tree.addFile path contents).read path = .ok contents := by
  rw [read, entry?_addFile]

theorem readText_of_read {tree : Tree} {path : Path} {text : List Char}
    (held : tree.read path = .ok (Utf8.encode text)) :
    tree.readText path = .ok (.ofList text) := by
  unfold readText
  rw [held]
  simp only [Utf8.decode_encode]

theorem entry?_of_read {tree : Tree} {path : Path} (held : tree.read path = .ok contents) :
    tree.entry? path.place = some (.file contents) := by
  unfold read at held
  split at held
  · rename_i found
    cases held
    exact found
  · cases held
  · cases held

theorem read_write {tree : Tree} {path : Path}
    (done : (tree.write path contents).1 = .ok ()) :
    (tree.write path contents).2.read path = .ok contents := by
  unfold write at done ⊢
  split at done
  · cases done
  · rename_i passes
    simp only [if_neg passes]
    exact read_addFile _ _ _

theorem read_rename {tree : Tree} {source target : Path} (held : tree.read source = .ok contents)
    (done : (tree.rename source target).1 = .ok ()) :
    (tree.rename source target).2.read target = .ok contents := by
  unfold rename at done ⊢
  rw [entry?_of_read held] at done ⊢
  split at done
  · cases done
  · rename_i fromPasses
    rw [if_neg fromPasses]
    split at done
    · cases done
    · rename_i toPasses
      rw [if_neg toPasses]
      exact read_addFile _ _ _

theorem read_restrict {tree : Tree} {path : Path} (held : tree.read path = .ok contents) :
    (tree.restrict path).2.read path = .ok contents := by
  unfold restrict
  split
  · exact held
  · split <;> exact held

instance : Lasting Tree where
  Sound _ := True
  sound_makeDirectory _ _ := trivial
  sound_write _ _ _ := trivial
  sound_rename _ _ _ _ := trivial
  sound_restrict _ _ := trivial
  sound_remove _ _ := trivial
  readText_of_read := readText_of_read
  read_write _ done := read_write done
  read_rename _ held done := read_rename held done
  read_restrict _ held _ := read_restrict held

end Tree

end LaunchSupervisor
