import LaunchSupervisor.Proofs.Files.Lasting
import LaunchSupervisor.Proofs.Files.Orderly

/-!
**The file system with modes keeps what it is given**, as long as everything in it lies in a
directory. Moving a file and making directories keep this order, and a file that was moved still
holds what it held.

* `node?_move`: what is where after a file was moved.
* `Orderly.rename`, `Orderly.makeDirectory`: moving a file and making directories keep the order.
* `read_rename`: a file that was moved is read in its new place.
-/

namespace LaunchSupervisor.Disk

variable {disk other : Disk}

/-! ### Moving a file -/

/-- Above what is there are directories. -/
theorem Orderly.eq_or_stands (orderly : Orderly disk) {above location : Location} {node : Node}
    (found : disk.node? location = some node) (inside : above <+: location) :
    above = location ∨ disk.Stands above := by
  rcases List.eq_nil_or_concat location with rfl | ⟨start, step, rfl⟩
  · exact .inl (List.prefix_nil.mp inside)
  · rw [List.concat_eq_append] at found inside ⊢
    rcases List.prefix_concat_iff.mp inside with same | further
    · exact .inl same
    · have stands := orderly.above found
      rw [List.dropLast_concat] at stands
      obtain ⟨mode, directory⟩ := stands
      rcases orderly.eq_or_stands directory further with rfl | higher
      · exact .inr ⟨mode, directory⟩
      · exact .inr higher
termination_by location.length
decreasing_by simp_all

/-- Nothing is below what is no directory. -/
theorem Orderly.eq_of_isWithin (orderly : Orderly disk) {above : Location}
    (free : ¬ disk.Stands above) {entry : Location × Node} (listed : entry ∈ disk.entries)
    (inside : isWithin above entry.1) : entry.1 = above := by
  have found : ∃ node, disk.node? entry.1 = some node := by
    unfold node?
    split
    · exact ⟨_, rfl⟩
    · refine Option.ne_none_iff_exists'.mp fun nothing => ?_
      simpa using List.lookup_eq_none_iff.mp nothing entry listed
  obtain ⟨node, found⟩ := found
  have above := orderly.eq_or_stands found (List.isPrefixOf_iff_prefix.mp inside)
  exact (above.resolve_right free).symm

theorem lookup_cons_other {key location : Location} (different : location ≠ key) (node : Node)
    (rest : List (Location × Node)) :
    ((key, node) :: rest).lookup location = rest.lookup location := by
  simp [List.lookup_cons, beq_eq_false_iff_ne.mpr different]

theorem lookup_moved {origin place : Location} (different : origin ≠ place)
    {entries : List (Location × Node)}
    (atOrigin : ∀ entry ∈ entries, isWithin origin entry.1 → entry.1 = origin)
    (atPlace : ∀ entry ∈ entries, isWithin place entry.1 → entry.1 = place)
    (location : Location) :
    ((entries.filter fun entry => !isWithin place entry.1).map fun entry =>
        if isWithin origin entry.1 then (place ++ entry.1.drop origin.length, entry.2)
        else entry).lookup location =
      if location = place then entries.lookup origin
      else if location = origin then none else entries.lookup location := by
  induction entries with
  | nil => simp
  | cons entry rest ih =>
    obtain ⟨key, node⟩ := entry
    have others := ih (fun entry member => atOrigin entry (List.mem_cons_of_mem _ member))
      fun entry member => atPlace entry (List.mem_cons_of_mem _ member)
    have within (location : Location) : isWithin location location := by
      simp [isWithin]
    -- An entry at the place goes, one at the origin takes its place, and all others stay.
    by_cases replaced : isWithin place key
    · obtain rfl : key = place := atPlace _ List.mem_cons_self replaced
      rw [List.filter_cons_of_neg (by simpa using replaced), others,
        lookup_cons_other different]
      by_cases here : location = key
      · rw [if_pos here, if_pos here]
      · rw [if_neg here, if_neg here, lookup_cons_other here]
    · rw [List.filter_cons_of_pos (by simpa using replaced), List.map_cons]
      by_cases moved : isWithin origin key
      · obtain rfl : key = origin := atOrigin _ List.mem_cons_self moved
        rw [if_pos moved, List.drop_length, List.append_nil, List.lookup_cons_self]
        by_cases here : location = place
        · rw [here, if_pos rfl, List.lookup_cons_self]
        · rw [lookup_cons_other here, others, if_neg here, if_neg here]
          by_cases left : location = key
          · rw [if_pos left, if_pos left]
          · rw [if_neg left, if_neg left, lookup_cons_other left]
      · have notOrigin : origin ≠ key := fun same => moved (same ▸ within key)
        rw [if_neg moved, lookup_cons_other notOrigin]
        by_cases here : location = key
        · have notPlace : key ≠ place := fun same => replaced (same ▸ within key)
          rw [here, if_neg notPlace, if_neg notOrigin.symm, List.lookup_cons_self,
            List.lookup_cons_self]
        · rw [lookup_cons_other here, others, lookup_cons_other here]

/-- **What is where after a file was moved.** -/
theorem node?_move (orderly : Orderly disk) {origin place : Location} (different : origin ≠ place)
    (file : ¬ disk.Stands origin) (free : ¬ disk.Stands place) (location : Location) :
    (disk.move origin place).node? location =
      if location = place then disk.node? origin
      else if location = origin then none else disk.node? location := by
  have originBelow := ne_nil_of_not_stands file
  have placeBelow := ne_nil_of_not_stands free
  unfold node? move
  rw [lookup_moved different (fun _ listed inside => orderly.eq_of_isWithin file listed inside)
    (fun _ listed inside => orderly.eq_of_isWithin free listed inside), if_neg originBelow]
  by_cases root : location = []
  · rw [if_pos root, if_neg (root ▸ placeBelow.symm), if_neg (root ▸ originBelow.symm),
      if_pos root]
  · rw [if_neg root, if_neg root]

theorem stands_move (orderly : Orderly disk) {origin place : Location}
    (different : origin ≠ place)
    (file : ¬ disk.Stands origin) (free : ¬ disk.Stands place) (location : Location)
    (stands : disk.Stands location) : (disk.move origin place).Stands location := by
  have notPlace : location ≠ place := fun same => free (same ▸ stands)
  have notOrigin : location ≠ origin := fun same => file (same ▸ stands)
  unfold Stands
  rw [node?_move orderly different file free, if_neg notPlace, if_neg notOrigin]
  exact stands

theorem Orderly.move (orderly : Orderly disk) {origin place : Location}
    (different : origin ≠ place) (file : ¬ disk.Stands origin) (free : ¬ disk.Stands place)
    (above : disk.Stands place.dropLast) : Orderly (disk.move origin place) := by
  have stand := stands_move orderly different file free
  refine ⟨fun {location node} found => ?_, stand _ orderly.current⟩
  rw [node?_move orderly different file free] at found
  split at found
  · rename_i here
    rw [here]
    exact stand _ above
  · split at found
    · cases found
    · exact stand _ (orderly.above found)

/-- A file takes no directory's place. -/
theorem not_stands_of_replaceFault? {place : Location} {contents : List UInt8} {mode : Nat}
    (passes : disk.replaceFault? place (.file contents mode) (disk.node? place) = none) :
    ¬ disk.Stands place := by
  rintro ⟨_, directory⟩
  rw [directory] at passes
  cases passes

theorem transferSteps_file {first last : LastStep} {origin place location : Location}
    {contents : List UInt8} {mode : Nat}
    (arrived : disk.arrive first = .ok (location, some (.file contents mode)))
    (moved : disk.transferSteps first last = .ok (origin, place)) :
    location = origin ∧ last.closed = false ∧
      ∃ there, disk.arrive last = .ok (place, there) ∧
        (origin = place ∨ ¬ disk.Stands place) := by
  unfold transferSteps at moved
  simp only [bind, Except.bind, pure, Except.pure, throw, throwThe, MonadExceptOf.throw,
    arrived] at moved
  split at moved
  · cases moved
  · cases arrivedLast : disk.arrive last with
    | error cause =>
      rw [arrivedLast] at moved
      cases moved
    | ok reached =>
      obtain ⟨goal, there⟩ := reached
      rw [arrivedLast, ← node?_of_arrive arrivedLast] at moved
      dsimp only at moved
      split at moved
      · cases moved
      · rename_i bare
        simp only [Node.isFile, Bool.true_and, Bool.or_eq_true, not_or] at bare
        have unclosed := Bool.eq_false_iff.mpr bare.2
        split at moved
        · rename_i same
          cases moved
          exact ⟨rfl, unclosed, there, rfl, .inl same⟩
        · split at moved
          · cases moved
          · split at moved
            · cases moved
            · split at moved
              · cases moved
              · rename_i passes
                cases moved
                exact ⟨rfl, unclosed, there, rfl, .inr (not_stands_of_replaceFault? passes)⟩

/-- A file is moved to where one is or nothing is. -/
theorem transfer_file {source target : Path} {origin place location : Location}
    {contents : List UInt8} {mode : Nat} (moved : disk.transfer source target = .ok (origin, place))
    (found : disk.find source = .ok (location, .file contents mode)) :
    location = origin ∧ ∃ last there, disk.approach target = .ok last ∧
      last.closed = false ∧
      disk.arrive last = .ok (place, there) ∧ (origin = place ∨ ¬ disk.Stands place) := by
  obtain ⟨first, approached, arrived, -⟩ := find_eq_ok_iff.mp found
  unfold transfer at moved
  simp only [bind, Except.bind, throw, throwThe, MonadExceptOf.throw, approached] at moved
  split at moved
  · cases moved
  · cases approachedLast : disk.approach target with
    | error cause =>
      rw [approachedLast] at moved
      cases moved
    | ok last =>
      rw [approachedLast] at moved
      obtain ⟨same, unclosed, there, goal, free⟩ := transferSteps_file arrived moved
      exact ⟨same, last, there, rfl, unclosed, goal, free⟩

theorem Orderly.rename (orderly : Orderly disk) {source : Path} (target : Path)
    {contents : List UInt8} (held : disk.read source = .ok contents) :
    Orderly (disk.rename source target).2 := by
  obtain ⟨location, mode, found⟩ := read_eq_ok_iff.mp held
  obtain ⟨first, -, arrivedFirst, -⟩ := find_eq_ok_iff.mp found
  have file := not_stands_of_file (node?_of_arrive arrivedFirst)
  unfold Disk.rename
  split
  · exact orderly
  · rename_i origin place moved
    obtain ⟨rfl, last, there, approached, -, arrived, free⟩ := transfer_file moved found
    dsimp only
    split
    · exact orderly
    · rename_i different
      exact orderly.move different file (free.resolve_left different)
        (orderly.arrive approached arrived)

theorem read_rename (orderly : Orderly disk) {source target : Path} {contents : List UInt8}
    (held : disk.read source = .ok contents) (done : (disk.rename source target).1 = .ok ()) :
    (disk.rename source target).2.read target = .ok contents := by
  obtain ⟨location, mode, found⟩ := read_eq_ok_iff.mp held
  obtain ⟨first, -, arrivedFirst, -⟩ := find_eq_ok_iff.mp found
  have here := node?_of_arrive arrivedFirst
  unfold Disk.rename at done ⊢
  split at done
  · cases done
  · rename_i origin place moved
    obtain ⟨rfl, last, there, approached, unclosed, arrived, free⟩ := transfer_file moved found
    dsimp only
    split
    · rename_i same
      exact read_of_arrive (fun _ stands => stands) rfl approached unclosed arrived (same ▸ here)
    · rename_i different
      have free := free.resolve_left different
      have file := not_stands_of_file here
      have there : (disk.move location place).node? place = some (.file contents mode) := by
        rw [node?_move orderly different file free, if_pos rfl, here]
      exact read_of_arrive (stands_move orderly different file free) rfl approached unclosed
        arrived there

/-! ### Making directories -/

theorem Orderly.makeOne (orderly : Orderly disk) {path : Path}
    (made : disk.makeOne path = .ok other) : Orderly other := by
  unfold Disk.makeOne at made
  simp only [bind, Except.bind, pure, throw, throwThe, MonadExceptOf.throw] at made
  cases approached : disk.approach path with
  | error cause =>
    rw [approached] at made
    cases made
  | ok last =>
    rw [approached] at made
    dsimp only at made
    split at made
    · cases made
    · cases arrived : disk.arrive last with
      | error cause =>
        rw [arrived] at made
        cases made
      | ok reached =>
        obtain ⟨location, there⟩ := reached
        rw [arrived] at made
        cases there with
        | some node => cases made
        | none =>
          cases made
          exact orderly.put (orderly.arrive approached arrived)
            fun _ => ⟨_, rfl⟩

theorem Orderly.makeSure (orderly : Orderly disk) {path : Path}
    (made : disk.makeSure path = .ok other) : Orderly other := by
  unfold Disk.makeSure at made
  split at made
  · split at made
    · cases made
      exact orderly
    · cases made
  · exact orderly.makeOne made

theorem Orderly.makeNearest (orderly : Orderly disk) {missing paths left : List Path}
    (made : disk.makeNearest missing paths = .ok (left, other)) : Orderly other := by
  induction paths generalizing missing with
  | nil =>
    cases made
    exact orderly
  | cons path above ih =>
    unfold Disk.makeNearest at made
    split at made
    · cases made
      exact orderly
    · split at made
      · exact ih made
      · cases made
      · rename_i sure
        cases made
        exact orderly.makeSure sure

theorem Orderly.makeEach (orderly : Orderly disk) (paths : List Path) :
    Orderly (disk.makeEach paths).2 := by
  induction paths generalizing disk with
  | nil => exact orderly
  | cons path rest ih =>
    unfold Disk.makeEach
    split
    · exact orderly
    · rename_i sure
      exact ih (orderly.makeSure sure)

theorem Orderly.makeDirectory (orderly : Orderly disk) (path : Path) :
    Orderly (disk.makeDirectory path).2 := by
  unfold Disk.makeDirectory
  dsimp only
  split
  · exact orderly
  · split
    · exact orderly
    · rename_i missing after made
      have each := (orderly.makeNearest made).makeEach missing
      split
      · rename_i failed
        rw [failed] at each
        exact each
      · rename_i done
        rw [done] at each
        exact each

/-! ### The laws -/

theorem orderly_empty : Orderly empty := by
  refine ⟨fun {location node} found => ?_, stands_root _⟩
  unfold node? at found
  split at found
  · rename_i root
    rw [root]
    exact stands_root _
  · cases found

theorem readText_of_read {path : Path} {text : List Char}
    (held : disk.read path = .ok (Utf8.encode text)) :
    disk.readText path = .ok (.ofList text) := by
  unfold readText
  rw [held]
  simp only [Utf8.decode_encode]

/-- Where there is nothing yet, no text can be read. -/
theorem readText_empty (path : Path) : ∃ cause, empty.readText path = .error cause := by
  unfold readText
  cases held : empty.read path with
  | error cause => exact ⟨cause, rfl⟩
  | ok contents =>
    obtain ⟨location, mode, found⟩ := read_eq_ok_iff.mp held
    obtain ⟨last, -, arrived, -⟩ := find_eq_ok_iff.mp found
    have here := node?_of_arrive arrived
    unfold node? at here
    split at here <;> cases here

instance : Lasting Disk where
  Sound := Orderly
  sound_makeDirectory path sound := sound.makeDirectory path
  sound_write path contents sound := sound.write path contents
  sound_rename target _ sound held := sound.rename target held
  sound_restrict path sound := sound.restrict path
  sound_remove path sound := sound.remove path
  readText_of_read := readText_of_read
  read_write _ done := read_write done
  read_rename sound held done := read_rename sound held done
  read_restrict _ held _ := read_restrict held

end LaunchSupervisor.Disk
