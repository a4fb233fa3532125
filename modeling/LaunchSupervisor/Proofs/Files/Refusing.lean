import LaunchSupervisor.Proofs.Files.Lasting

/-!
**File systems on which any change may fail.** It is laid down beforehand which of the changes are
refused, in any pattern at all; a change that is refused leaves the files as they are. What is known
of the files of such a file system is known of it as well, as nothing is claimed of a change that
has failed.

* `change_cases`: a change is refused, or is carried out on the files.
* `Lasting (Refusing φ)`: refusals take nothing away from a file system that keeps what it is
  given.
-/

namespace LaunchSupervisor

/-- **A file system that refuses changes**, as is laid down for each of those to come; when nothing
is laid down any more, all of them are carried out. -/
structure Refusing (φ : Type) where
  files : φ
  refusals : List Bool

namespace Refusing

section

variable {φ : Type} (refusing : Refusing φ) (path : Path)
  (carryOut : φ → Except FileError Unit × φ)

/-- Makes a change on a path, unless it is refused. -/
def change : Except FileError Unit × Refusing φ :=
  match refusing.refusals with
  | true :: rest => (.error (.refused path), { refusing with refusals := rest })
  | laidDown =>
    let (outcome, files) := carryOut refusing.files
    (outcome, { files, refusals := laidDown.tail })

theorem change_cases :
    refusing.change path carryOut =
        (.error (.refused path), { refusing with refusals := refusing.refusals.tail }) ∨
      refusing.change path carryOut =
        ((carryOut refusing.files).1,
          { files := (carryOut refusing.files).2, refusals := refusing.refusals.tail }) := by
  obtain ⟨files, refusals⟩ := refusing
  cases refusals with
  | nil => exact .inr rfl
  | cons refused rest =>
    cases refused with
    | false => exact .inr rfl
    | true => exact .inl rfl

end

variable {φ : Type} [FileSystem φ]

instance : FileSystem (Refusing φ) where
  read refusing := FileSystem.read refusing.files
  readText refusing := FileSystem.readText refusing.files
  isFile refusing := FileSystem.isFile refusing.files
  isDirectory refusing := FileSystem.isDirectory refusing.files
  list refusing := FileSystem.list refusing.files
  write refusing path contents := refusing.change path (FileSystem.write · path contents)
  append refusing path contents := refusing.change path (FileSystem.append · path contents)
  restrict refusing path := refusing.change path (FileSystem.restrict · path)
  remove refusing path := refusing.change path (FileSystem.remove · path)
  rename refusing source target := refusing.change source (FileSystem.rename · source target)
  makeDirectory refusing path := refusing.change path (FileSystem.makeDirectory · path)

variable {refusing : Refusing φ} {path : Path} {carryOut : φ → Except FileError Unit × φ}

theorem read_change {place : Path} {contents : List UInt8}
    (done : (refusing.change path carryOut).1 = .ok ())
    (held : (carryOut refusing.files).1 = .ok () →
      FileSystem.read (carryOut refusing.files).2 place = .ok contents) :
    FileSystem.read (refusing.change path carryOut).2.files place = .ok contents := by
  obtain refused | carriedOut := change_cases refusing path carryOut
  · rw [refused] at done
    cases done
  · rw [carriedOut] at done ⊢
    exact held done

variable [Lasting φ]

theorem sound_change (sound : Lasting.Sound refusing.files)
    (kept : Lasting.Sound (carryOut refusing.files).2) :
    Lasting.Sound (refusing.change path carryOut).2.files := by
  obtain refused | carriedOut := change_cases refusing path carryOut
  · rw [refused]
    exact sound
  · rw [carriedOut]
    exact kept

instance : Lasting (Refusing φ) where
  Sound refusing := Lasting.Sound refusing.files
  sound_makeDirectory path sound := sound_change sound (Lasting.sound_makeDirectory path sound)
  sound_write path contents sound := sound_change sound (Lasting.sound_write path contents sound)
  sound_rename target _ sound held := sound_change sound (Lasting.sound_rename target sound held)
  sound_restrict path sound := sound_change sound (Lasting.sound_restrict path sound)
  sound_remove path sound := sound_change sound (Lasting.sound_remove path sound)
  readText_of_read held := @Lasting.readText_of_read φ _ _ _ _ _ held
  read_write sound done := read_change done fun written => Lasting.read_write sound written
  read_rename sound held done := read_change done fun moved => Lasting.read_rename sound held moved
  read_restrict sound held done :=
    read_change done fun restricted => Lasting.read_restrict sound held restricted

end Refusing

end LaunchSupervisor
