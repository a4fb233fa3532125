import LaunchSupervisor.Files.Basic

/-!
**A file system in memory.** It records every change it is asked for, in order and before it can
fail, and refuses those on paths marked as failing. Directories above a new file come into being
with it.

* `lookup_put_self`, `lookup_put_other`: what is put at a place is found there and nowhere else.
-/

namespace LaunchSupervisor

/-- A change that was asked for. -/
inductive FileChange where
  | write (path : Path)
  | append (path : Path)
  | restrict (path : Path)
  | remove (path : Path)
  | rename (source target : Path)
  | makeDirectory (path : Path)
deriving DecidableEq

namespace Tree

/-- What stands at a place. -/
inductive Entry where
  | file (contents : List UInt8)
  | directory (names : List String)
deriving DecidableEq

end Tree

/-- A file system in memory. -/
structure Tree where
  /-- What stands where; the first entry for a place counts. -/
  entries : List (Place × Tree.Entry)
  /-- The changes asked for so far. -/
  changes : List FileChange
  /-- The places on which every change fails. -/
  failing : List Place

namespace Tree

/-- The file system with nothing but a root. -/
def empty : Tree := ⟨[([.root], .directory [])], [], []⟩

/-- What stands at a place. -/
def entry? (tree : Tree) (place : Place) : Option Entry :=
  tree.entries.lookup place

/-- The bytes of the file at a path. -/
def contents (tree : Tree) (path : Path) : Option (List UInt8) :=
  match tree.entry? path.place with
  | some (.file bytes) => some bytes
  | _ => none

/-- Puts an entry at a place. -/
def put (entries : List (Place × Entry)) (place : Place) (entry : Entry) :
    List (Place × Entry) :=
  (place, entry) :: entries.filter fun other => other.1 != place

/-- Takes away what stands at a place. -/
def drop (entries : List (Place × Entry)) (place : Place) : List (Place × Entry) :=
  entries.filter fun other => other.1 != place

/-- The name by which a directory lists a place; names that are no text are not listed. -/
def listedName? (place : Place) : Option String :=
  place.name?.bind Utf8.string?

/-- Lists a place in the directory it lies in. -/
def link (entries : List (Place × Entry)) (above place : Place) : List (Place × Entry) :=
  match entries.lookup above, listedName? place with
  | some (.directory names), some name =>
    if names.contains name then entries else put entries above (.directory (names ++ [name]))
  | _, _ => entries

/-- Takes a place out of the directory it lies in. -/
def unlink (entries : List (Place × Entry)) (place : Place) : List (Place × Entry) :=
  match place.parent?, listedName? place with
  | some above, some name =>
    match entries.lookup above with
    | some (.directory names) => put entries above (.directory (names.filter (· != name)))
    | _ => entries
  | _, _ => entries

/-- Makes a directory at a place where nothing stands, and the directories above it. -/
def ensure (entries : List (Place × Entry)) (place : Place) : List (Place × Entry) :=
  if (entries.lookup place).isSome then entries
  else
    let entries := put entries place (.directory [])
    match _found : place.parent? with
    | none => entries
    | some above => if above = [] then entries else link (ensure entries above) above place
termination_by place.length
decreasing_by exact Place.length_parent_lt _found

/-- Puts a file at a path, with the directories above it. -/
def addFile (tree : Tree) (path : Path) (contents : List UInt8) : Tree :=
  let entries := put tree.entries path.place (.file contents)
  match path.place.parent? with
  | none => { tree with entries }
  | some above => { tree with entries := link (ensure entries above) above path.place }

/-- Puts a directory at a path where nothing stands. -/
def addDirectory (tree : Tree) (path : Path) : Tree :=
  { tree with entries := ensure tree.entries path.place }

/-- Marks a path: every later change on it fails. -/
def failOn (tree : Tree) (path : Path) : Tree :=
  { tree with failing := path.place :: tree.failing }

/-- Notes that a change was asked for. -/
def record (tree : Tree) (change : FileChange) : Tree :=
  { tree with changes := tree.changes ++ [change] }

/-- Whether changes on a path fail. -/
def fails (tree : Tree) (path : Path) : Bool :=
  tree.failing.contains path.place

/-! ### The operations -/

def read (tree : Tree) (path : Path) : Except FileError (List UInt8) :=
  match tree.entry? path.place with
  | some (.file contents) => .ok contents
  | some (.directory _) => .error (.isDirectory path)
  | none => .error (.missing path)

def readText (tree : Tree) (path : Path) : Except FileError String :=
  match tree.read path with
  | .error error => .error error
  | .ok contents =>
    match Utf8.decode contents with
    | .ok text => .ok (.ofList text)
    | .error fault => .error (.notText fault)

def isFile (tree : Tree) (path : Path) : Bool :=
  match tree.entry? path.place with
  | some (.file _) => true
  | _ => false

def isDirectory (tree : Tree) (path : Path) : Bool :=
  match tree.entry? path.place with
  | some (.directory _) => true
  | _ => false

def list (tree : Tree) (path : Path) : Except FileError (List Path) :=
  match tree.entry? path.place with
  | some (.directory names) => .ok (names.map path.child)
  | _ => .error (.notDirectory path)

def write (tree : Tree) (path : Path) (contents : List UInt8) : Except FileError Unit × Tree :=
  let asked := tree.record (.write path)
  if tree.fails path then (.error (.refused path), asked)
  else (.ok (), asked.addFile path contents)

def append (tree : Tree) (path : Path) (contents : List UInt8) : Except FileError Unit × Tree :=
  let asked := tree.record (.append path)
  if tree.fails path then (.error (.refused path), asked)
  else (.ok (), asked.addFile path ((tree.contents path).getD [] ++ contents))

def restrict (tree : Tree) (path : Path) : Except FileError Unit × Tree :=
  let asked := tree.record (.restrict path)
  if tree.fails path then (.error (.refused path), asked)
  else if (tree.entry? path.place).isNone then (.error (.missing path), asked)
  else (.ok (), asked)

def remove (tree : Tree) (path : Path) : Except FileError Unit × Tree :=
  let asked := tree.record (.remove path)
  if tree.fails path then (.error (.refused path), asked)
  else
    match tree.entry? path.place with
    | some (.file _) =>
      (.ok (), { asked with entries := unlink (drop tree.entries path.place) path.place })
    | some (.directory _) => (.error (.isDirectory path), asked)
    | none => (.error (.missing path), asked)

def rename (tree : Tree) (source target : Path) : Except FileError Unit × Tree :=
  let asked := tree.record (.rename source target)
  if tree.fails source then (.error (.refused source), asked)
  else if tree.fails target then (.error (.refused target), asked)
  else
    match tree.entry? source.place with
    | some (.file contents) =>
      let without := { asked with entries := unlink (drop tree.entries source.place) source.place }
      (.ok (), without.addFile target contents)
    | some (.directory _) => (.error (.notFile source), asked)
    | none => (.error (.missing source), asked)

def makeDirectory (tree : Tree) (path : Path) : Except FileError Unit × Tree :=
  let asked := tree.record (.makeDirectory path)
  if tree.fails path then (.error (.refused path), asked)
  else (.ok (), asked.addDirectory path)

instance : FileSystem Tree where
  read := read
  readText := readText
  write := write
  append := append
  isFile := isFile
  isDirectory := isDirectory
  list := list
  restrict := restrict
  remove := remove
  rename := rename
  makeDirectory := makeDirectory

/-! ### Looking up what was put -/

@[simp] theorem lookup_put_self (entries : List (Place × Entry)) (place : Place) (entry : Entry) :
    (put entries place entry).lookup place = some entry := by
  simp [put]

theorem lookup_put_other (entries : List (Place × Entry)) {place other : Place} (entry : Entry)
    (different : place ≠ other) :
    (put entries other entry).lookup place = entries.lookup place := by
  have unequal : (place == other) = false := by simpa using different
  simp [put, List.lookup_cons, unequal, lookup_filter_ne entries different]

theorem lookup_drop_other (entries : List (Place × Entry)) {place other : Place}
    (different : place ≠ other) :
    (drop entries other).lookup place = entries.lookup place :=
  lookup_filter_ne entries different

theorem lookup_drop_self (entries : List (Place × Entry)) (place : Place) :
    (drop entries place).lookup place = none :=
  lookup_filter_self entries place

end Tree

end LaunchSupervisor
