import LaunchSupervisor.Files.Basic

/-!
**The error log.** The error output of the command and the supervisor's own troubles are written to
a file in the user's directory, one entry after the other; an entry that cannot be written there
goes to the supervisor's own error output.

* `entry_ends_line`: every entry ends with a line feed.
-/

namespace LaunchSupervisor

/-- The line feed. -/
def newline : UInt8 := 10

namespace ErrorLog

/-- The tag of the supervisor's own entries. -/
def supervisorTag : String := "Dtexec"

/-- The tag of the error output of a command, after the name the supervisor was called by. -/
def stderrTag (program command : String) : String :=
  "(" ++ program ++ ") " ++ command

/-- An entry: when, by whom, and what. -/
def entry (time tag : String) (pid : UInt32) (body : List UInt8) : List UInt8 :=
  Utf8.bytes ("*** " ++ time ++ "\n*** " ++ tag ++ "(" ++ toString pid.toNat ++ "): stderr\n") ++
    body ++ if body.getLast? = some newline then [] else [newline]

theorem entry_ends_line (time tag : String) (pid : UInt32) (body : List UInt8) :
    (entry time tag pid body).getLast? = some newline := by
  unfold entry
  split
  · rename_i ends
    rw [List.append_nil, List.getLast?_append, ends]
    rfl
  · simp

end ErrorLog

/-- The error log of one supervisor. -/
structure ErrorLog where
  /-- The file; none if the user has no directory. -/
  path : Option Path
  /-- The supervisor's process id, which every entry names. -/
  pid : UInt32

namespace ErrorLog

/-- The log kept in a directory. -/
def inDirectory (directory : Option Path) (pid : UInt32) : ErrorLog :=
  { path := directory.map (·.child "errorlog"), pid }

variable {φ : Type} [FileSystem φ]

/-- Adds to the log's file, in a directory that is made if need be. -/
def appendTo (files : φ) (path : Path) (text : List UInt8) : Except FileError Unit × φ :=
  match path.parent? with
  | none => FileSystem.append files path text
  | some directory =>
    match FileSystem.makeDirectory files directory with
    | (.error error, files) => (.error error, files)
    | (.ok (), files) => FileSystem.append files path text

/-- Writes an entry; what cannot be written is given back, for the supervisor's error output. -/
def write (log : ErrorLog) (files : φ) (time tag : String) (body : List UInt8) :
    List UInt8 × φ :=
  let text := entry time tag log.pid body
  match log.path with
  | none => (text, files)
  | some path =>
    match appendTo files path text with
    | (.ok (), files) => ([], files)
    | (.error _, files) => (text, files)

end ErrorLog

end LaunchSupervisor
