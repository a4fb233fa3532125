import LaunchSupervisor.Files.Basic

/-!
**A file system with modes.** Paths are followed step by step as an operating system does, for a
user to whom nothing is denied; new files are open to all readers, new directories to their owner.

* `node?_put_self`, `node?_put_other`: what is put somewhere is found there and nowhere else.
* `walk_append`: to follow a path is to follow its first steps and go on from where they lead.
-/

namespace LaunchSupervisor

namespace Disk

/-- Where something is: the names from the root on. -/
abbrev Location := List (List UInt8)

/-- A file or a directory, with its permissions. -/
inductive Node where
  | file (contents : List UInt8) (mode : Nat)
  | directory (mode : Nat)
deriving DecidableEq

/-- Whether something is a file. -/
def Node.isFile : Node → Bool
  | .file _ _ => true
  | .directory _ => false

end Disk

/-- A file system with modes. -/
structure Disk where
  /-- What is where; the root is always there. -/
  entries : List (Disk.Location × Disk.Node)
  /-- Where relative paths start. -/
  current : Disk.Location

namespace Disk

/-- The mode of a new file, 644 in base eight. -/
def newFileMode : Nat := 0o644

/-- The mode of a new directory, 700 in base eight. -/
def newDirectoryMode : Nat := 0o700

/-- The mode that lets only the owner read and write, 600 in base eight. -/
def ownerOnlyMode : Nat := 0o600

/-- The longest name. -/
def longestName : Nat := 255

/-- The longest path. -/
def longestPath : Nat := 4095

/-- A file system with nothing on it. -/
def empty : Disk := ⟨[], []⟩

/-- What is at a location. -/
def node? (disk : Disk) (location : Location) : Option Node :=
  if location = [] then some (.directory 0o755) else disk.entries.lookup location

/-- The file system with something put at a location. -/
def put (disk : Disk) (location : Location) (node : Node) : Disk :=
  { disk with entries := (location, node) :: disk.entries.filter fun entry => entry.1 != location }

/-- The file system without what is at a location. -/
def erase (disk : Disk) (location : Location) : Disk :=
  { disk with entries := disk.entries.filter fun entry => entry.1 != location }

/-! ### Following a path -/

/-- Follows steps from a directory to a directory. -/
def walk (disk : Disk) (location : Location) : List (List UInt8) → Except SystemError Location
  | [] => .ok location
  | step :: rest =>
    if step = [46] then walk disk location rest
    else if step = [46, 46] then walk disk location.dropLast rest
    else if longestName < step.length then .error .nameTooLong
    else
      match disk.node? (location ++ [step]) with
      | some (.directory _) => walk disk (location ++ [step]) rest
      | some (.file _ _) => .error .notDirectory
      | none => .error .noEntry

/-- The last step of a path, before it is taken. -/
structure LastStep where
  /-- The directory in which it is taken. -/
  above : Location
  step : List UInt8
  /-- Whether slashes follow it. -/
  closed : Bool

/-- Whether a last step is no name but `.` or `..`. -/
def LastStep.isDots (last : LastStep) : Bool :=
  last.step == [46] || last.step == [46, 46]

/-- Follows a path up to its last step; that of the root is `.`. -/
def approach (disk : Disk) (path : Path) : Except SystemError LastStep :=
  if path.bytes.contains 0 then .error .nulByte
  else if path.bytes = [] then .error .noEntry
  else if longestPath < path.bytes.length then .error .nameTooLong
  else
    let steps := path.segments.filter fun segment => !segment.isEmpty
    let start := if path.isAbsolute then [] else disk.current
    match disk.walk start steps.dropLast with
    | .error cause => .error cause
    | .ok above =>
      .ok ⟨above, steps.getLast?.getD [46], path.bytes.getLast? == some Path.slash⟩

/-- Where a last step leads, and what is there. -/
def arrive (disk : Disk) (last : LastStep) : Except SystemError (Location × Option Node) :=
  if last.step = [46] then .ok (last.above, disk.node? last.above)
  else if last.step = [46, 46] then .ok (last.above.dropLast, disk.node? last.above.dropLast)
  else if longestName < last.step.length then .error .nameTooLong
  else .ok (last.above ++ [last.step], disk.node? (last.above ++ [last.step]))

/-- What a path leads to; only a directory may be followed by slashes. -/
def find (disk : Disk) (path : Path) : Except SystemError (Location × Node) :=
  match disk.approach path with
  | .error cause => .error cause
  | .ok last =>
    match disk.arrive last with
    | .error cause => .error cause
    | .ok (_, none) => .error .noEntry
    | .ok (location, some (.file contents mode)) =>
      if last.closed then .error .notDirectory else .ok (location, .file contents mode)
    | .ok (location, some (.directory mode)) => .ok (location, .directory mode)

/-- The mode of what a path leads to. -/
def mode? (disk : Disk) (path : Path) : Option Nat :=
  match disk.find path with
  | .ok (_, .file _ mode) => some mode
  | .ok (_, .directory mode) => some mode
  | .error _ => none

/-! ### The operations -/

/-- An operation's result when the operating system refuses an attempt. -/
def refuse {α : Type} (attempt : Attempt) (cause : SystemError) : Except FileError α :=
  .error (.system attempt cause)

def read (disk : Disk) (path : Path) : Except FileError (List UInt8) :=
  match disk.find path with
  | .ok (_, .file contents _) => .ok contents
  | .ok (_, .directory _) => refuse (.reading path) .isDirectory
  | .error cause => refuse (.reading path) cause

def readText (disk : Disk) (path : Path) : Except FileError String :=
  match disk.read path with
  | .error error => .error error
  | .ok contents =>
    match Utf8.decode contents with
    | .ok text => .ok (.ofList text)
    | .error _ => refuse (.reading path) .notText

/-- Writes to a file: new contents from the old ones, which are none in a new file. -/
def alter (disk : Disk) (attempt : Attempt) (path : Path)
    (contents : List UInt8 → List UInt8) : Except FileError Unit × Disk :=
  match disk.approach path with
  | .error cause => (refuse attempt cause, disk)
  | .ok last =>
    if last.closed ∨ last.isDots then (refuse attempt .isDirectory, disk)
    else
      match disk.arrive last with
      | .error cause => (refuse attempt cause, disk)
      | .ok (_, some (.directory _)) => (refuse attempt .isDirectory, disk)
      | .ok (location, some (.file old mode)) =>
        (.ok (), disk.put location (.file (contents old) mode))
      | .ok (location, none) => (.ok (), disk.put location (.file (contents []) newFileMode))

def write (disk : Disk) (path : Path) (contents : List UInt8) : Except FileError Unit × Disk :=
  disk.alter (.creating path) path fun _ => contents

def append (disk : Disk) (path : Path) (contents : List UInt8) : Except FileError Unit × Disk :=
  disk.alter (.openingForAppend path) path fun old => old ++ contents

def isFile (disk : Disk) (path : Path) : Bool :=
  match disk.find path with
  | .ok (_, .file _ _) => true
  | _ => false

def isDirectory (disk : Disk) (path : Path) : Bool :=
  match disk.find path with
  | .ok (_, .directory _) => true
  | _ => false

/-- The name of a location directly below another. -/
def nameBelow? (above location : Location) : Option (List UInt8) :=
  if location.dropLast = above then location.getLast? else none

/-- The names in a directory. -/
def names (disk : Disk) (location : Location) : List (List UInt8) :=
  disk.entries.filterMap fun entry => nameBelow? location entry.1

def list (disk : Disk) (path : Path) : Except FileError (List Path) :=
  match disk.find path with
  | .ok (location, .directory _) => .ok ((disk.names location).map fun name => path.join ⟨name⟩)
  | .ok (_, .file _ _) => refuse (.listing path) .notDirectory
  | .error cause => refuse (.listing path) cause

/-- The same file or directory with another mode. -/
def Node.withMode (mode : Nat) : Node → Node
  | .file contents _ => .file contents mode
  | .directory _ => .directory mode

def restrict (disk : Disk) (path : Path) : Except FileError Unit × Disk :=
  match disk.find path with
  | .ok (location, node) => (.ok (), disk.put location (node.withMode ownerOnlyMode))
  | .error cause => (refuse (.restricting path) cause, disk)

def remove (disk : Disk) (path : Path) : Except FileError Unit × Disk :=
  match disk.find path with
  | .ok (location, .file _ _) => (.ok (), disk.erase location)
  | .ok (_, .directory _) => (refuse (.removing path) .isDirectory, disk)
  | .error cause => (refuse (.removing path) cause, disk)

/-- Whether something is at or below a location. -/
def isWithin (above location : Location) : Bool :=
  above.isPrefixOf location

/-- Moves what is at and below a location. -/
def move (disk : Disk) (source target : Location) : Disk :=
  let rest := disk.entries.filter fun entry => !isWithin target entry.1
  { disk with
    entries := rest.map fun entry =>
      if isWithin source entry.1 then (target ++ entry.1.drop source.length, entry.2) else entry }

/-- Why a node cannot be moved to where another is or nothing is, if it cannot; directories take
the place of empty ones. -/
def replaceFault? (disk : Disk) (location : Location) : Node → Option Node → Option SystemError
  | _, none => none
  | .file _ _, some (.file _ _) => none
  | .file _ _, some (.directory _) => some .isDirectory
  | .directory _, some (.file _ _) => some .notDirectory
  | .directory _, some (.directory _) =>
    if disk.names location = [] then none else some .notEmpty

/-- Where something is moved from and to, unless it cannot be. Nothing is moved into itself or over
what holds it, and slashes may only follow the name of a directory. -/
def transferSteps (disk : Disk) (source target : LastStep) :
    Except SystemError (Location × Location) := do
  if source.isDots || target.isDots then throw .busy
  match ← disk.arrive source with
  | (_, none) => throw .noEntry
  | (origin, some node) =>
    let (place, there) ← disk.arrive target
    if node.isFile && (source.closed || target.closed) then throw .notDirectory
    if origin = place then return (origin, place)
    if isWithin origin place then throw .invalid
    if isWithin place origin then throw .notEmpty
    match disk.replaceFault? place node there with
    | some cause => throw cause
    | none => return (origin, place)

/-- The two locations that renaming a path is about, unless it cannot be renamed. -/
def transfer (disk : Disk) (source target : Path) : Except SystemError (Location × Location) := do
  if target.bytes.contains 0 then throw .nulByte
  disk.transferSteps (← disk.approach source) (← disk.approach target)

def rename (disk : Disk) (source target : Path) : Except FileError Unit × Disk :=
  match disk.transfer source target with
  | .error cause => (refuse (.renaming source target) cause, disk)
  | .ok (origin, place) => (.ok (), if origin = place then disk else disk.move origin place)

/-! ### Making directories -/

/-- Makes one directory in one that is there. -/
def makeOne (disk : Disk) (path : Path) : Except SystemError Disk := do
  let last ← disk.approach path
  if last.isDots then throw .exists
  match ← disk.arrive last with
  | (_, some _) => throw .exists
  | (location, none) => return disk.put location (.directory newDirectoryMode)

/-- Makes one directory unless it is there already. -/
def makeSure (disk : Disk) (path : Path) : Except SystemError Disk :=
  match disk.makeOne path with
  | .error .exists => if disk.isDirectory path then .ok disk else .error .exists
  | result => result

/-- Makes the first directory of a list for which the one it lies in is there, and gives those
before it, nearest first. -/
def makeNearest (disk : Disk) (missing : List Path) :
    List Path → Except SystemError (List Path × Disk)
  | [] => .ok (missing, disk)
  | path :: above =>
    if path.parent? = none then .ok (missing, disk)
    else
      match disk.makeSure path with
      | .error .noEntry => makeNearest disk (path :: missing) above
      | .error cause => .error cause
      | .ok disk => .ok (missing, disk)

/-- Makes the directories of a list one after the other, as far as that goes. -/
def makeEach (disk : Disk) : List Path → Except SystemError Unit × Disk
  | [] => (.ok (), disk)
  | path :: rest =>
    match disk.makeSure path with
    | .error cause => (.error cause, disk)
    | .ok disk => makeEach disk rest

def makeDirectory (disk : Disk) (path : Path) : Except FileError Unit × Disk :=
  let attempt := Attempt.makingDirectory path
  if disk.isDirectory path then (.ok (), disk)
  else
    match disk.makeNearest [] path.ancestors with
    | .error cause => (refuse attempt cause, disk)
    | .ok (missing, disk) =>
      match disk.makeEach missing with
      | (.error cause, disk) => (refuse attempt cause, disk)
      | (.ok (), disk) => (.ok (), disk)

instance : FileSystem Disk where
  read := read
  readText := readText
  write := write
  append := append
  isFile := isFile
  isDirectory := isDirectory
  list := list
  restrict := restrict
  remove := remove
  rename := rename
  makeDirectory := makeDirectory

/-- The file system with a file at a path, and the directories above it. -/
def withFile (disk : Disk) (path : Path) (contents : List UInt8) : Disk :=
  let above := (path.parent?.map fun directory => (disk.makeDirectory directory).2).getD disk
  (above.write path contents).2

/-- The path that leads from one location to another below it. -/
def pathFrom (above location : Location) : Path :=
  ⟨[Path.slash].intercalate (location.drop above.length)⟩

/-- The files below a location with their contents and modes, in the order of their paths. -/
def filesBelow (disk : Disk) (above : Location) : List (Path × List UInt8 × Nat) :=
  let found := disk.entries.filterMap fun entry =>
    match entry.2 with
    | .file contents mode =>
      if isWithin above entry.1 then some (pathFrom above entry.1, contents, mode) else none
    | .directory _ => none
  found.mergeSort fun a b => decide (a.1.bytes ≤ b.1.bytes)

/-! ### Small facts -/

theorem node?_put_self (disk : Disk) {location : Location} (node : Node) (below : location ≠ []) :
    (disk.put location node).node? location = some node := by
  simp [node?, put, below]

theorem node?_put_other (disk : Disk) {location other : Location} (node : Node)
    (different : location ≠ other) :
    (disk.put other node).node? location = disk.node? location := by
  have unequal : (location == other) = false := by simpa using different
  unfold node? put
  split
  · rfl
  · simp [List.lookup_cons, unequal, lookup_filter_ne disk.entries different]

theorem walk_append (disk : Disk) (location : Location) (first second : List (List UInt8)) :
    disk.walk location (first ++ second) =
      (disk.walk location first).bind fun reached => disk.walk reached second := by
  induction first generalizing location with
  | nil => rfl
  | cons step rest ih =>
    simp only [List.cons_append, walk]
    split
    · exact ih location
    · split
      · exact ih location.dropLast
      · split
        · rfl
        · split
          · exact ih (location ++ [step])
          · rfl
          · rfl

end Disk

end LaunchSupervisor
