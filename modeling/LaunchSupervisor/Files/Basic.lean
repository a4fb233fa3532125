import LaunchSupervisor.Path

/-!
**File systems.** What the supervisor asks of a file system, and the ways in which it may refuse.
An operation takes the state of the file system and, if it can change something, returns the state
after it, whether it succeeded or not.

* `lookup_filter_ne`: taking some entries out of a list leaves the entries for other keys.
* `lookup_filter_self`: an entry that is taken out is not found.
-/

namespace LaunchSupervisor

/-- A cause that an operating system gives. -/
inductive SystemError where
  | noEntry
  | exists
  | notDirectory
  | isDirectory
  | invalid
  | notEmpty
  | denied
  | nameTooLong
  | tooManyLinks
  | crossDevice
  | busy
  /-- Nobody listens there. -/
  | refused
  /-- A path that names an endpoint is limited. -/
  | endpointTooLong
  | nulByte
  | notText
deriving DecidableEq

/-- How a cause is reported. -/
def SystemError.message : SystemError → String
  | .noEntry => "No such file or directory (os error 2)"
  | .exists => "File exists (os error 17)"
  | .notDirectory => "Not a directory (os error 20)"
  | .isDirectory => "Is a directory (os error 21)"
  | .invalid => "Invalid argument (os error 22)"
  | .notEmpty => "Directory not empty (os error 39)"
  | .denied => "Permission denied (os error 13)"
  | .nameTooLong => "File name too long (os error 36)"
  | .tooManyLinks => "Too many levels of symbolic links (os error 40)"
  | .crossDevice => "Invalid cross-device link (os error 18)"
  | .busy => "Device or resource busy (os error 16)"
  | .refused => "Connection refused (os error 111)"
  | .endpointTooLong => "path must be shorter than SUN_LEN"
  | .nulByte => "file name contained an unexpected NUL byte"
  | .notText => "stream did not contain valid UTF-8"

/-- What was being done when an operating system refused. -/
inductive Attempt where
  | reading (path : Path)
  | creating (path : Path)
  | openingForAppend (path : Path)
  | listing (path : Path)
  | restricting (path : Path)
  | removing (path : Path)
  | renaming (source target : Path)
  | makingDirectory (path : Path)
deriving DecidableEq

/-- How an attempt is reported. -/
def Attempt.message : Attempt → String
  | .reading path => "reading file " ++ path.quoted
  | .creating path => "creating file " ++ path.quoted
  | .openingForAppend path => "opening " ++ path.quoted ++ " for append"
  | .listing path => "reading dir " ++ path.quoted
  | .restricting path => "chmod 0600 " ++ path.quoted
  | .removing path => "removing file " ++ path.quoted
  | .renaming source target => "renaming " ++ source.quoted ++ " to " ++ target.quoted
  | .makingDirectory path => "creating dir " ++ path.quoted

/-- Why a file operation failed. -/
inductive FileError where
  /-- The path is marked as failing. -/
  | refused (path : Path)
  | missing (path : Path)
  | isDirectory (path : Path)
  | notDirectory (path : Path)
  | notFile (path : Path)
  | notText (fault : Utf8.Fault)
  | system (attempt : Attempt) (cause : SystemError)
deriving DecidableEq

namespace FileError

/-- The first line of a report: what failed, without the cause behind it. -/
def summary : FileError → String
  | .refused path => "injected failure for " ++ path.quoted
  | .missing path => "File not found: " ++ path.quoted
  | .isDirectory path => "Is a directory: " ++ path.quoted
  | .notDirectory path => "Not a directory or not found: " ++ path.quoted
  | .notFile path => "Not a file: " ++ path.quoted
  | .notText fault => "Invalid UTF-8: " ++ fault.message
  | .system attempt _ => attempt.message

/-- The whole report. -/
def message : FileError → String
  | .system attempt cause => attempt.message ++ ": " ++ cause.message
  | error => error.summary

/-- What failed and why, from the outside in. -/
def causes : FileError → List String
  | .system attempt cause => [attempt.message, cause.message]
  | error => [error.summary]

end FileError

/-- A file system with states of type `φ`. -/
class FileSystem (φ : Type) where
  /-- The bytes of a file. -/
  read : φ → Path → Except FileError (List UInt8)
  /-- The text of a file. -/
  readText : φ → Path → Except FileError String
  /-- Replaces the contents of a file, creating it if need be. -/
  write : φ → Path → List UInt8 → Except FileError Unit × φ
  /-- Adds to the end of a file, creating it if need be. -/
  append : φ → Path → List UInt8 → Except FileError Unit × φ
  isFile : φ → Path → Bool
  isDirectory : φ → Path → Bool
  /-- The entries of a directory, each with its full path. -/
  list : φ → Path → Except FileError (List Path)
  /-- Lets only the owner read and write. -/
  restrict : φ → Path → Except FileError Unit × φ
  remove : φ → Path → Except FileError Unit × φ
  rename : φ → Path → Path → Except FileError Unit × φ
  /-- Creates a directory, and those above it, for the owner alone. -/
  makeDirectory : φ → Path → Except FileError Unit × φ

/-! ### Files by where they are -/

/-- What is taken out of a list of entries has no bearing on the entries for other keys. -/
theorem lookup_filter_ne {κ α : Type} [BEq κ] [LawfulBEq κ] (entries : List (κ × α))
    {key other : κ} (different : key ≠ other) :
    (entries.filter fun entry => entry.1 != other).lookup key = entries.lookup key := by
  induction entries with
  | nil => rfl
  | cons entry rest ih =>
    obtain ⟨held, value⟩ := entry
    by_cases same : held = other
    · simp [same, List.lookup_cons, beq_eq_false_iff_ne.mpr different, ih]
    · simp [same, List.lookup_cons, ih]

/-- What is taken out of a list of entries is not found in it. -/
theorem lookup_filter_self {κ α : Type} [BEq κ] [LawfulBEq κ] (entries : List (κ × α))
    (key : κ) :
    (entries.filter fun entry => entry.1 != key).lookup key = none := by
  induction entries with
  | nil => rfl
  | cons entry rest ih =>
    obtain ⟨held, value⟩ := entry
    by_cases same : held = key
    · simp [same, ih]
    · simp [same, List.lookup_cons, beq_eq_false_iff_ne.mpr (Ne.symm same), ih]

end LaunchSupervisor
