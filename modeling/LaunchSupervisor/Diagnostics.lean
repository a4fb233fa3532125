import LaunchSupervisor.Files.Basic

/-!
**Diagnostic logs.** A program keeps a log of its own doings only where it is told to, and does
without one that it cannot open.
-/

namespace LaunchSupervisor

/-- How much a log holds. -/
inductive LogLevel where
  | error
  | warn
  | info
  | debug
  | trace
deriving DecidableEq

namespace LogLevel

/-- The name of a level. -/
def name : LogLevel → String
  | .error => "error"
  | .warn => "warn"
  | .info => "info"
  | .debug => "debug"
  | .trace => "trace"

/-- Every level, from the least that a log may hold to the most. -/
def all : List LogLevel := [.error, .warn, .info, .debug, .trace]

/-- The level with a name. -/
def ofName? (name : List UInt8) : Option LogLevel :=
  all.find? fun level => Utf8.bytes level.name = name

theorem ofName?_name (level : LogLevel) : ofName? (Utf8.bytes level.name) = some level := by
  cases level <;> decide

end LogLevel

namespace Diagnostics

/-- The line by which the runs in a log can be told apart. -/
def banner (pid : Nat) (program : Path) : List UInt8 :=
  Utf8.bytes ("pid=" ++ toString pid ++ " exe=" ++ program.display ++ "\n")

variable {φ : Type} [FileSystem φ]

/-- Adds to a log, if there is one that can be opened. -/
def note (files : φ) (log : Option Path) (text : List UInt8) : φ :=
  match log with
  | none => files
  | some path => (FileSystem.append files path text).2

end Diagnostics

end LaunchSupervisor
