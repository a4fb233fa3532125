import LaunchSupervisor.IconCache.Basic
import LaunchSupervisor.IconCache.CommandLine

/-!
**The cache tool.** The window manager has it record what an action started; for people it shows the
icon of a command or all mappings. A failed task is told apart from a command line that is not
understood by the exit code.

* `run_list_files`: without a diagnostic log, showing the mappings changes no file.
-/

namespace LaunchSupervisor.IconCache

/-- What a run of the cache tool leaves behind, besides files. -/
structure ToolAnswer where
  code : Nat := 0
  output : String := ""
  /-- The text on its error output. -/
  complaint : String := ""
deriving DecidableEq

namespace Tool

/-- The name of the tool with its version. -/
def versionLine : String := "dtaction-cache 0.1.0\n"

/-- How the tool is used. -/
def usage : String := "Usage: dtaction-cache [OPTIONS] <COMMAND>\n"

/-- The answer to a command line that brings no task. -/
def stopAnswer : ToolStop → ToolAnswer
  | .misuse => { code := 2, complaint := usage }
  | .help => { output := usage }
  | .version => { output := versionLine }

/-- A cause on its line; causes are numbered when there are several. -/
def causeLine (several : Bool) (entry : String × Nat) : String :=
  if several then "\n    " ++ toString entry.2 ++ ": " ++ entry.1 else "\n    " ++ entry.1

/-- A failure with its causes below it. -/
def report : List String → String
  | [] => ""
  | [failure] => failure
  | failure :: causes =>
    failure ++ "\n\nCaused by:" ++
      String.join (causes.zipIdx.map (causeLine (decide (1 < causes.length))))

/-- The line of a mapping. -/
def mappingLine (mapping : Mapping) : String :=
  mapping.command ++ "\t" ++ mapping.action ++ "\n"

variable {φ : Type} [FileSystem φ]

/-- Carries out a task. -/
def perform (cache : IconCache) (files : φ) : Task → ToolAnswer × φ
  | .update action children =>
    match cache.update files action children with
    | (.ok true, _, files) => ({ output := "updated\n" }, files)
    | (.ok false, _, files) => ({ output := "unchanged\n" }, files)
    | (.error error, _, files) =>
      ({ code := 1, complaint := "dtaction-cache error: " ++ report error.causes ++ "\n" }, files)
  | .lookup command =>
    match cache.findIcon command with
    | some icon => ({ output := icon ++ "\n" }, files)
    | none => ({ code := 1 }, files)
  | .list => ({ output := String.join (cache.store.entries.map mappingLine) }, files)

/-- A run of the tool; `banner` is the line it leaves in the diagnostic log. -/
def run (files : φ) (environment : Environment) (banner : List UInt8)
    (arguments : List Argument) : ToolAnswer × φ :=
  match ToolRequest.parse arguments with
  | .error stop => (stopAnswer stop, files)
  | .ok request =>
    let files := Diagnostics.note files environment.cacheLog banner
    perform (.load files environment) files request.task

theorem run_list_files (files : φ) {environment : Environment} {banner : List UInt8}
    {arguments : List Argument} {level : Option LogLevel} (unlogged : environment.cacheLog = none)
    (asked : ToolRequest.parse arguments = .ok { level, task := .list }) :
    (run files environment banner arguments).2 = files := by
  simp [run, asked, unlogged, Diagnostics.note, perform]

end Tool

end LaunchSupervisor.IconCache
