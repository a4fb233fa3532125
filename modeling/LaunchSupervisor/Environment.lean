import LaunchSupervisor.Path

/-!
**The environment.** The variables that the supervisor and the cache tool look at. A variable that
is set to nothing counts as not set.
-/

namespace LaunchSupervisor

/-- What the environment says. -/
structure Environment where
  /-- The process waits for a debugger before it does anything. -/
  waitsForDebugger : Bool := false
  /-- The diagnostic log of the supervisor. -/
  supervisorLog : Option Path := none
  /-- The diagnostic log of the cache tool. -/
  cacheLog : Option Path := none
  /-- How much the diagnostic log holds. -/
  logLevel : Option String := none
  /-- A file of tunables. -/
  tunablesFile : Option Path := none
  /-- The socket of the messaging bus. -/
  busSocket : Option Path := none
  home : Option Path := none
  language : Option String := none
deriving DecidableEq

namespace Environment

/-- The environment in which `lookup` gives the values of variables. -/
def ofLookup (lookup : String → Option String) : Environment :=
  let value (name : String) : Option String := (lookup name).filter (· != "")
  let path (name : String) : Option Path := (value name).map .ofString
  { waitsForDebugger := (value "_DTEXEC_DEBUG").isSome
    supervisorLog := path "DTEXEC_ACTION_ICON_CACHE_LOG"
    cacheLog := path "DTWM_ACTION_ICON_CACHE_LOG"
    logLevel := value "DTEXEC_LOG"
    tunablesFile := path "DTEXEC_CONFIG"
    busSocket := path "DTEXEC_BUS_SOCKET"
    home := path "HOME"
    language := value "LANG" }

/-- The directory of the desktop's personal files. -/
def personalDirectory (environment : Environment) : Option Path :=
  environment.home.map (·.child ".dt")

end Environment

end LaunchSupervisor
