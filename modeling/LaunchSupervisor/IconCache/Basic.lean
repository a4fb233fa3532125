import LaunchSupervisor.Environment
import LaunchSupervisor.IconCache.Catalog
import LaunchSupervisor.IconCache.Store

/-!
**The icon cache.** A window shows the command that opened it, which need not be the program its
action runs. The store tells which action started the command, the catalog which icon the action
has.

* `findIcon_of_known`: a command with a mapping gets the icon of its action if that has one.
-/

namespace LaunchSupervisor

/-- The icon cache. -/
structure IconCache where
  catalog : IconCache.Catalog
  store : IconCache.Store

namespace IconCache

/-- The icon of a command: that of the action that started it, or else its own. -/
def findIcon (cache : IconCache) (command : String) : Option String :=
  ((cache.store.find? command).bind cache.catalog.find?).or (cache.catalog.find? command)

/-- The children that a report lists, one on each line. -/
def children (report : String) : List String :=
  (Text.filledLines report.toList).map String.ofList

/-- Records that an action started each of some commands; tells whether any of that was news. -/
def insertAll (store : Store) (action : String) : List String → Bool × Store
  | [] => (false, store)
  | child :: rest =>
    let (changed, store) := store.insert (key child) action
    let (more, store) := insertAll store action rest
    (changed || more, store)

variable {φ : Type} [FileSystem φ]

/-- The icon cache of a user. -/
def load (files : φ) (environment : Environment) : IconCache :=
  { catalog := .load files (searchPath environment.home environment.language)
    store := .load files environment.personalDirectory }

/-- Takes in a report that an action started some children, and saves the store if that was
news. -/
def update (cache : IconCache) (files : φ) (action report : String) :
    Except SaveError Bool × IconCache × φ :=
  let (changed, store) := insertAll cache.store (key action) (children report)
  if changed then
    match store.save files with
    | (.ok _, store, files) => (.ok true, { cache with store }, files)
    | (.error error, store, files) => (.error error, { cache with store }, files)
  else (.ok false, { cache with store }, files)

theorem findIcon_of_known {cache : IconCache} {command action icon : String}
    (started : cache.store.find? command = some action)
    (has : cache.catalog.find? action = some icon) : cache.findIcon command = some icon := by
  simp [findIcon, started, has]

end IconCache

end LaunchSupervisor
