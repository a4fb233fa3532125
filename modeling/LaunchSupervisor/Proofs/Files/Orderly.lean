import LaunchSupervisor.Files.Disk

/-!
**A file system in which everything lies in a directory.** A path is followed through directories
alone, so as long as these stand it leads to the same place, whatever happens to the files.

* `Orderly`: everything lies in a directory.
* `approach_of_stands`: a path is followed as before if all directories still stand.
* `Orderly.write`, `Orderly.restrict`, `Orderly.remove`: what is done to a file keeps the order.
* `read_write`, `read_restrict`: what was written is read back.
-/

namespace LaunchSupervisor.Disk

/-! ### Directories -/

/-- A directory is at a location. -/
def Stands (disk : Disk) (location : Location) : Prop :=
  ∃ mode, disk.node? location = some (.directory mode)

/-- **Everything lies in a directory**, and relative paths start at one. -/
structure Orderly (disk : Disk) : Prop where
  above : ∀ {location node}, disk.node? location = some node → disk.Stands location.dropLast
  current : disk.Stands disk.current

variable {disk other : Disk}

theorem stands_root (disk : Disk) : disk.Stands [] :=
  ⟨_, if_pos rfl⟩

theorem not_stands_of_file {location : Location} {contents : List UInt8} {mode : Nat}
    (file : disk.node? location = some (.file contents mode)) : ¬ disk.Stands location := by
  rintro ⟨_, directory⟩
  rw [file] at directory
  cases directory

theorem not_stands_of_none {location : Location} (nothing : disk.node? location = none) :
    ¬ disk.Stands location := by
  rintro ⟨_, directory⟩
  rw [nothing] at directory
  cases directory

theorem ne_nil_of_not_stands {location : Location} (free : ¬ disk.Stands location) :
    location ≠ [] :=
  fun root => free (root ▸ stands_root disk)

/-! ### Following a path -/

theorem walk_of_stands (stand : ∀ location, disk.Stands location → other.Stands location)
    {location reached : Location} {steps : List (List UInt8)}
    (walked : disk.walk location steps = .ok reached) :
    other.walk location steps = .ok reached := by
  induction steps generalizing location with
  | nil => exact walked
  | cons step rest ih =>
    unfold walk at walked ⊢
    split at walked
    · rename_i here
      rw [if_pos here]
      exact ih walked
    · rename_i notHere
      rw [if_neg notHere]
      split at walked
      · rename_i up
        rw [if_pos up]
        exact ih walked
      · rename_i notUp
        rw [if_neg notUp]
        split at walked
        · cases walked
        · rename_i short
          rw [if_neg short]
          split at walked
          · rename_i mode found
            obtain ⟨_, same⟩ := stand _ ⟨mode, found⟩
            rw [same]
            exact ih walked
          · cases walked
          · cases walked

theorem approach_eq_ok_iff {path : Path} {last : LastStep} :
    disk.approach path = .ok last ↔
      ¬ path.bytes.contains 0 ∧ path.bytes ≠ [] ∧ path.bytes.length ≤ longestPath ∧
        disk.walk (if path.isAbsolute then [] else disk.current)
          (path.segments.filter fun segment => !segment.isEmpty).dropLast = .ok last.above ∧
        last.step = (path.segments.filter fun segment => !segment.isEmpty).getLast?.getD [46] ∧
        last.closed = (path.bytes.getLast? == some Path.slash) := by
  obtain ⟨above, step, closed⟩ := last
  unfold approach
  split
  · rename_i nul
    exact iff_of_false nofun fun ⟨plain, _⟩ => plain nul
  · rename_i plain
    split
    · rename_i blank
      exact iff_of_false nofun fun ⟨_, filled, _⟩ => filled blank
    · rename_i filled
      split
      · rename_i long
        exact iff_of_false nofun fun ⟨_, _, short, _⟩ => absurd long (Nat.not_lt.mpr short)
      · rename_i short
        dsimp only
        cases disk.walk (if path.isAbsolute then [] else disk.current)
            (path.segments.filter fun segment => !segment.isEmpty).dropLast with
        | error cause => simp
        | ok reached =>
          have noNul : 0 ∉ path.bytes := by simpa using plain
          simp [filled, Nat.not_lt.mp short, noNul, eq_comm]

/-- **A path is followed as before** if all directories still stand. -/
theorem approach_of_stands (stand : ∀ location, disk.Stands location → other.Stands location)
    (current : other.current = disk.current) {path : Path} {last : LastStep}
    (approached : disk.approach path = .ok last) : other.approach path = .ok last := by
  obtain ⟨plain, filled, short, walked, ends⟩ := approach_eq_ok_iff.mp approached
  rw [← current] at walked
  exact approach_eq_ok_iff.mpr ⟨plain, filled, short, walk_of_stands stand walked, ends⟩

theorem Orderly.walk (orderly : Orderly disk) {location reached : Location}
    {steps : List (List UInt8)} (start : disk.Stands location)
    (walked : disk.walk location steps = .ok reached) : disk.Stands reached := by
  induction steps generalizing location with
  | nil =>
    cases walked
    exact start
  | cons step rest ih =>
    unfold Disk.walk at walked
    split at walked
    · exact ih start walked
    · split at walked
      · obtain ⟨mode, found⟩ := start
        exact ih (orderly.above found) walked
      · split at walked
        · cases walked
        · split at walked
          · rename_i mode found
            exact ih ⟨mode, found⟩ walked
          · cases walked
          · cases walked

theorem Orderly.approach (orderly : Orderly disk) {path : Path} {last : LastStep}
    (approached : disk.approach path = .ok last) : disk.Stands last.above := by
  obtain ⟨-, -, -, walked, -⟩ := approach_eq_ok_iff.mp approached
  refine orderly.walk ?_ walked
  split
  · exact stands_root disk
  · exact orderly.current

/-- Where a last step leads, whatever is there. -/
def LastStep.destination (last : LastStep) : Except SystemError Location :=
  if last.step = [46] then .ok last.above
  else if last.step = [46, 46] then .ok last.above.dropLast
  else if longestName < last.step.length then .error .nameTooLong
  else .ok (last.above ++ [last.step])

theorem arrive_eq_ok_iff {last : LastStep} {location : Location} {node : Option Node} :
    disk.arrive last = .ok (location, node) ↔
      last.destination = .ok location ∧ node = disk.node? location := by
  have reached : disk.arrive last =
      last.destination.map fun location => (location, disk.node? location) := by
    unfold arrive LastStep.destination
    split
    · rfl
    · split
      · rfl
      · split <;> rfl
  rw [reached]
  cases last.destination with
  | error cause => simp [Except.map]
  | ok goal =>
    simp only [Except.map, Except.ok.injEq, Prod.mk.injEq]
    constructor
    · rintro ⟨rfl, rfl⟩
      exact ⟨rfl, rfl⟩
    · rintro ⟨rfl, rfl⟩
      exact ⟨rfl, rfl⟩

/-- A last step leads to a place in a directory. -/
theorem Orderly.destination (orderly : Orderly disk) {last : LastStep}
    (above : disk.Stands last.above) {location : Location}
    (goal : last.destination = .ok location) : disk.Stands location.dropLast := by
  obtain ⟨mode, found⟩ := above
  have up := orderly.above found
  unfold LastStep.destination at goal
  split at goal
  · cases goal
    exact up
  · split at goal
    · cases goal
      obtain ⟨_, foundUp⟩ := up
      exact orderly.above foundUp
    · split at goal
      · cases goal
      · cases goal
        rw [List.dropLast_concat]
        exact ⟨mode, found⟩

/-- **A path leads to a place in a directory.** -/
theorem Orderly.arrive (orderly : Orderly disk) {path : Path} {last : LastStep}
    (approached : disk.approach path = .ok last) {location : Location} {node : Option Node}
    (arrived : disk.arrive last = .ok (location, node)) : disk.Stands location.dropLast :=
  orderly.destination (orderly.approach approached) (arrive_eq_ok_iff.mp arrived).1

theorem node?_of_arrive {last : LastStep} {location : Location} {node : Option Node}
    (arrived : disk.arrive last = .ok (location, node)) : disk.node? location = node :=
  (arrive_eq_ok_iff.mp arrived).2.symm

theorem find_eq_ok_iff {path : Path} {location : Location} {node : Node} :
    disk.find path = .ok (location, node) ↔
      ∃ last, disk.approach path = .ok last ∧ disk.arrive last = .ok (location, some node) ∧
        (node.isFile → last.closed = false) := by
  unfold find
  cases disk.approach path with
  | error cause => simp
  | ok last =>
    simp only [Except.ok.injEq, exists_eq_left']
    cases disk.arrive last with
    | error cause => simp
    | ok reached =>
      obtain ⟨place, there⟩ := reached
      cases there with
      | none => simp
      | some there =>
        cases there with
        | directory mode =>
          refine ⟨fun found => ?_, fun ⟨found, _⟩ => ?_⟩
          · cases found
            exact ⟨rfl, nofun⟩
          · cases found
            rfl
        | file contents mode =>
          refine ⟨fun found => ?_, fun ⟨found, unclosed⟩ => ?_⟩
          · dsimp only at found
            split at found
            · cases found
            · rename_i unclosed
              cases found
              exact ⟨rfl, fun _ => Bool.eq_false_iff.mpr unclosed⟩
          · cases found
            simp [unclosed rfl]

theorem read_eq_ok_iff {path : Path} {contents : List UInt8} :
    disk.read path = .ok contents ↔
      ∃ location mode, disk.find path = .ok (location, .file contents mode) := by
  unfold read refuse
  cases disk.find path with
  | error cause => simp
  | ok found =>
    obtain ⟨location, node⟩ := found
    cases node with
    | file held mode => simp
    | directory mode => simp

/-! ### Changes at one location -/

theorem node?_put (disk : Disk) (location place : Location) (node : Node) :
    (disk.put place node).node? location =
      if location = place ∧ place ≠ [] then some node else disk.node? location := by
  split
  · rename_i here
    rw [here.1, node?_put_self _ _ here.2]
  · rename_i elsewhere
    by_cases same : location = place
    · have root : place = [] := Classical.byContradiction fun below => elsewhere ⟨same, below⟩
      rw [same, root]
      rfl
    · exact node?_put_other _ _ same

theorem node?_erase (disk : Disk) (location : Location) {place : Location} (below : place ≠ []) :
    (disk.erase place).node? location =
      if location = place then none else disk.node? location := by
  unfold node? erase
  split
  · rename_i root
    have different : location ≠ place := fun same => below (same ▸ root)
    rw [if_neg different]
  · split
    · rename_i same
      rw [same, lookup_filter_self]
    · rename_i different
      rw [lookup_filter_ne _ different]

section

variable {place : Location} {node : Node}

theorem stands_put (directory : disk.Stands place → ∃ mode, node = .directory mode)
    (location : Location) (stands : disk.Stands location) :
    (disk.put place node).Stands location := by
  unfold Stands
  rw [node?_put]
  split
  · rename_i here
    obtain ⟨mode, rfl⟩ := directory (here.1 ▸ stands)
    exact ⟨mode, rfl⟩
  · exact stands

/-- Putting something in a directory keeps a file system in order, unless a file takes the place of
a directory. -/
theorem Orderly.put (orderly : Orderly disk) (above : disk.Stands place.dropLast)
    (directory : disk.Stands place → ∃ mode, node = .directory mode) :
    Orderly (disk.put place node) := by
  refine ⟨fun {location there} found => ?_, stands_put directory _ orderly.current⟩
  rw [node?_put] at found
  split at found
  · rename_i here
    rw [here.1]
    exact stands_put directory _ above
  · exact stands_put directory _ (orderly.above found)

theorem Orderly.erase (orderly : Orderly disk) (free : ¬ disk.Stands place) :
    Orderly (disk.erase place) := by
  have below := ne_nil_of_not_stands free
  have stand : ∀ location, disk.Stands location → (disk.erase place).Stands location := by
    intro location stands
    have different : location ≠ place := fun same => free (same ▸ stands)
    unfold Stands
    rw [node?_erase disk location below, if_neg different]
    exact stands
  refine ⟨fun {location there} found => ?_, stand _ orderly.current⟩
  rw [node?_erase disk location below] at found
  split at found
  · cases found
  · exact stand _ (orderly.above found)

end

/-! ### Writing, restricting and removing -/

/-- A path is read as before if it leads to a file with the same contents. -/
theorem read_of_arrive (stand : ∀ location, disk.Stands location → other.Stands location)
    (current : other.current = disk.current) {path : Path} {last : LastStep}
    (approached : disk.approach path = .ok last) (unclosed : last.closed = false)
    {location : Location} {node : Option Node} (arrived : disk.arrive last = .ok (location, node))
    {contents : List UInt8} {mode : Nat}
    (file : other.node? location = some (.file contents mode)) :
    other.read path = .ok contents := by
  have there := arrive_eq_ok_iff.mpr ⟨(arrive_eq_ok_iff.mp arrived).1, file.symm⟩
  exact read_eq_ok_iff.mpr ⟨location, mode, find_eq_ok_iff.mpr
    ⟨last, approach_of_stands stand current approached, there, fun _ => unclosed⟩⟩

/-- A file is written where one is or nothing is, or nothing is changed. -/
theorem alter_cases (disk : Disk) (attempt : Attempt) (path : Path)
    (contents : List UInt8 → List UInt8) :
    (∃ fault, disk.alter attempt path contents = (.error fault, disk)) ∨
      ∃ last location node old mode, disk.approach path = .ok last ∧ last.closed = false ∧
        disk.arrive last = .ok (location, node) ∧ ¬ disk.Stands location ∧
        disk.alter attempt path contents =
          (.ok (), disk.put location (.file (contents old) mode)) := by
  unfold alter refuse
  cases approached : disk.approach path with
  | error cause => exact .inl ⟨_, rfl⟩
  | ok last =>
    dsimp only
    split
    · exact .inl ⟨_, rfl⟩
    · rename_i named
      have unclosed : last.closed = false := Bool.eq_false_iff.mpr fun closed => named (.inl closed)
      cases arrived : disk.arrive last with
      | error cause => exact .inl ⟨_, rfl⟩
      | ok reached =>
        obtain ⟨location, node⟩ := reached
        have here := node?_of_arrive arrived
        cases node with
        | none =>
          exact .inr ⟨last, location, _, [], _, rfl, unclosed, arrived,
            not_stands_of_none here, rfl⟩
        | some node =>
          cases node with
          | directory mode => exact .inl ⟨_, rfl⟩
          | file old mode =>
            exact .inr ⟨last, location, _, old, mode, rfl, unclosed, arrived,
              not_stands_of_file here, rfl⟩

theorem Orderly.write (orderly : Orderly disk) (path : Path) (contents : List UInt8) :
    Orderly (disk.write path contents).2 := by
  obtain ⟨fault, failed⟩ |
    ⟨last, location, node, old, mode, approached, -, arrived, free, done⟩ :=
    alter_cases disk (.creating path) path fun _ => contents
  · rw [Disk.write, failed]
    exact orderly
  · rw [Disk.write, done]
    exact orderly.put (orderly.arrive approached arrived)
      fun stands => absurd stands free

theorem read_write {path : Path} {contents : List UInt8}
    (done : (disk.write path contents).1 = .ok ()) :
    (disk.write path contents).2.read path = .ok contents := by
  obtain ⟨fault, failed⟩ |
      ⟨last, location, node, old, mode, approached, unclosed, arrived, free, written⟩ :=
    alter_cases disk (.creating path) path fun _ => contents
  · rw [Disk.write, failed] at done
    cases done
  · rw [Disk.write, written]
    exact read_of_arrive (stands_put fun stands => absurd stands free) rfl approached unclosed
      arrived (node?_put_self _ _ (ne_nil_of_not_stands free))

theorem Orderly.restrict (orderly : Orderly disk) (path : Path) :
    Orderly (disk.restrict path).2 := by
  unfold Disk.restrict
  split
  · rename_i location node found
    obtain ⟨last, approached, arrived, -⟩ := find_eq_ok_iff.mp found
    have here := node?_of_arrive arrived
    refine orderly.put (orderly.arrive approached arrived) ?_
    rintro ⟨mode, directory⟩
    rw [directory] at here
    cases here
    exact ⟨_, rfl⟩
  · exact orderly

theorem read_restrict {path : Path} {contents : List UInt8} (held : disk.read path = .ok contents) :
    (disk.restrict path).2.read path = .ok contents := by
  obtain ⟨location, mode, found⟩ := read_eq_ok_iff.mp held
  obtain ⟨last, approached, arrived, unclosed⟩ := find_eq_ok_iff.mp found
  have free := not_stands_of_file (node?_of_arrive arrived)
  unfold Disk.restrict
  rw [found]
  exact read_of_arrive (stands_put fun stands => absurd stands free) rfl approached (unclosed rfl)
    arrived (node?_put_self _ _ (ne_nil_of_not_stands free))

theorem Orderly.remove (orderly : Orderly disk) (path : Path) : Orderly (disk.remove path).2 := by
  unfold Disk.remove
  split
  · rename_i location contents mode found
    obtain ⟨last, -, arrived, -⟩ := find_eq_ok_iff.mp found
    exact orderly.erase (not_stands_of_file (node?_of_arrive arrived))
  · exact orderly
  · exact orderly

end LaunchSupervisor.Disk
