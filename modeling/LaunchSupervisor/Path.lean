import LaunchSupervisor.Text.Quoted

/-!
**Paths.** A path is kept as it was given and shown so; two paths name the same place when their
parts agree. Repeated slashes, a slash at the end and inner `.` parts make no difference, a leading
`.` and every `..` do.

* `join_of_absolute`: joining an absolute path gives that path.
-/

namespace LaunchSupervisor

/-- A path as given. -/
structure Path where
  bytes : List UInt8
deriving DecidableEq, Inhabited

/-- One step of a path. -/
inductive Path.Part where
  /-- The slash an absolute path starts with. -/
  | root
  /-- A `.` at the start of a relative path. -/
  | here
  /-- A `..`. -/
  | up
  | name (bytes : List UInt8)
deriving DecidableEq

/-- What a path names, whichever way it is written. -/
abbrev Place := List Path.Part

namespace Path

/-- The slash between parts. -/
def slash : UInt8 := 47

/-- The path written as a string. -/
def ofString (text : String) : Path := ⟨Utf8.bytes text⟩

/-- The path of a text. -/
def ofText (text : List Char) : Path := ⟨Utf8.encode text⟩

/-- Whether a path starts at the root. -/
def isAbsolute (path : Path) : Bool :=
  path.bytes.head? == some slash

/-- The stretches between slashes. -/
def segments (path : Path) : List (List UInt8) :=
  path.bytes.splitOn slash

/-- The part a stretch stands for, if it stands for one away from the start. -/
def Part.ofSegment? (segment : List UInt8) : Option Part :=
  if segment = [] then none
  else if segment = [46] then none
  else if segment = [46, 46] then some .up
  else some (.name segment)

/-- The parts of a path. -/
def place (path : Path) : Place :=
  if path.isAbsolute then .root :: path.segments.filterMap Part.ofSegment?
  else
    match path.segments with
    | [46] :: rest => .here :: rest.filterMap Part.ofSegment?
    | segments => segments.filterMap Part.ofSegment?

/-- The path with `name` below it; an absolute `name` replaces it. -/
def join (path name : Path) : Path :=
  if name.isAbsolute then name
  else if path.bytes = [] ∨ path.bytes.getLast? = some slash then ⟨path.bytes ++ name.bytes⟩
  else ⟨path.bytes ++ slash :: name.bytes⟩

/-- The path with a named entry below it. -/
def child (path : Path) (name : String) : Path :=
  path.join (.ofString name)

/-- Whether a stretch away from the start stands for no part. -/
def isFiller (segment : List UInt8) : Bool :=
  segment == [] || segment == [46]

/-- The stretches up to the last one that stands for a part. -/
def trimSegments : List (List UInt8) → List (List UInt8)
  | [] => []
  | first :: rest => first :: (rest.reverse.dropWhile isFiller).reverse

/-- The path written with the given stretches. -/
def ofSegments (segments : List (List UInt8)) : Path :=
  if segments = [[]] then ⟨[slash]⟩ else ⟨[slash].intercalate segments⟩

/-- The path of the directory a path lies in, written as in the path. -/
def parent? (path : Path) : Option Path :=
  match trimSegments path.segments with
  | [] => none
  | [only] => if only = [] then none else some ⟨[]⟩
  | segments => some (ofSegments (trimSegments segments.dropLast))

/-- A path and those of the directories it lies in, nearest first, as far as so many go. -/
def ancestorsWithin : Nat → Path → List Path
  | 0, path => [path]
  | steps + 1, path =>
    match path.parent? with
    | none => [path]
    | some above => path :: ancestorsWithin steps above

/-- A path and those of all the directories it lies in, nearest first. -/
def ancestors (path : Path) : List Path :=
  path.ancestorsWithin path.bytes.length

/-- The path with more text at its end. -/
def extend (path : Path) (suffix : String) : Path :=
  ⟨path.bytes ++ Utf8.bytes suffix⟩

/-- Paths of entries of one directory in the order of their names. -/
def sort (paths : List Path) : List Path :=
  paths.mergeSort fun a b => decide (a.bytes ≤ b.bytes)

/-- The path as text, with U+FFFD for bytes that are none. -/
def display (path : Path) : String :=
  Utf8.lossyString path.bytes

/-- The path in quotes. -/
def quoted (path : Path) : String :=
  String.ofList (Text.quotedBytes path.bytes)

end Path

namespace Place

/-- The place a place lies in; the root and the empty place lie in none. -/
def parent? (place : Place) : Option Place :=
  match place.getLast? with
  | none | some .root => none
  | some _ => some place.dropLast

/-- The name a place has in its parent. -/
def name? (place : Place) : Option (List UInt8) :=
  match place.getLast? with
  | some (.name bytes) => some bytes
  | _ => none

end Place

/-! ### Small facts -/

theorem Path.join_of_absolute (path name : Path) (absolute : name.isAbsolute) :
    path.join name = name := by
  simp [Path.join, absolute]

theorem Place.parent?_append_name (place : Place) (name : List UInt8) :
    Place.parent? (place ++ [.name name]) = some place := by
  simp [Place.parent?]

theorem Place.name?_append_name (place : Place) (name : List UInt8) :
    Place.name? (place ++ [.name name]) = some name := by
  simp [Place.name?]

theorem Place.length_parent_lt {place above : Place} (found : place.parent? = some above) :
    above.length < place.length := by
  unfold Place.parent? at found
  split at found
  · cases found
  · cases found
  · rename_i last _ given
    cases found
    have nonempty : place ≠ [] := fun empty => by simp [empty] at given
    have := List.length_pos_iff.mpr nonempty
    rw [List.length_dropLast]
    omega

end LaunchSupervisor
