import LaunchSupervisor.ProcessTree
import LaunchSupervisor.Proofs.Text.Numerals
import Mathlib.Data.Finset.Range
import Mathlib.Data.Set.Card

/-!
**The walk against the recursive pre-order.** The walk keeps a worklist and marks a process when it
takes it off. `PreOrder` says what is meant: each process before its children, the children in the
order in which they are listed, and nobody twice, wherever it was met before. The lists of children
may form any graph.

* `children_eq_iff`: which children a process has.
* `exists_preOrder`, `PreOrder.unique`: there is one such order, because pids are bounded.
* `PreOrder.mem_iff`: it holds the processes that descend from the root.
* `walk_eq_take`: the walk is its beginning.
* `commands_eq_of_shownAlike`: nothing else is looked at.
* `commands_preOrder`: the names that are listed.
-/

namespace LaunchSupervisor

/-! ### Lists of commands -/

namespace CommandList

/-- Commands that are added in turn are listed where they come first; empty ones are not. -/
theorem commands_foldl_add (names : List String) (list : CommandList) :
    (names.foldl (fun list command => (list.add command).2) list).commands =
      list.commands ++
        (names.filter fun name => name ≠ "" ∧ name ∉ list.commands).eraseDups := by
  induction names generalizing list with
  | nil => simp
  | cons name rest ih =>
    rw [List.foldl_cons, ih]
    unfold add
    split
    · rename_i known
      have dropped : ¬ (name ≠ "" ∧ name ∉ list.commands) := by
        rintro ⟨nonempty, new⟩
        exact known.elim nonempty new
      simp [dropped]
    · rename_i new
      rw [not_or] at new
      have kept : name ≠ "" ∧ name ∉ list.commands := new
      simp only [List.append_assoc]
      rw [List.filter_cons_of_pos (by simpa using kept), List.eraseDups_cons, List.filter_filter]
      have fewer : (rest.filter fun later =>
            later ≠ "" ∧ later ∉ list.commands ++ [name]) =
          rest.filter fun later =>
            (!later == name) && decide (later ≠ "" ∧ later ∉ list.commands) := by
        congr 1
        funext later
        by_cases same : later = name <;> simp [same]
      rw [fewer, List.singleton_append]

theorem commands_ofCommands (names : List String) :
    (ofCommands names).commands = (names.filter (· ≠ "")).eraseDups := by
  rw [ofCommands, commands_foldl_add]
  simp

end CommandList

namespace ProcessTree

/-! ### The children of a process -/

/-- A word names a process: it is a numeral of a number above zero that fits in 32 bits. -/
def NamesProcess (word : List Char) (pid : Int) : Prop :=
  Text.Numeral word pid ∧ 0 < pid ∧ pid ≤ 2147483647

/-- **The processes that words name**, in order; other words are passed over. -/
inductive Lists : List (List Char) → List Int → Prop where
  | nil : Lists [] []
  | process {word : List Char} {words : List (List Char)} {pid : Int} {pids : List Int}
    (named : NamesProcess word pid) (rest : Lists words pids) : Lists (word :: words) (pid :: pids)
  | other {word : List Char} {words : List (List Char)} {pids : List Int}
    (nobody : ∀ pid, ¬ NamesProcess word pid) (rest : Lists words pids) :
    Lists (word :: words) pids

/-- The process that a word names, if it names one. -/
def named? (word : List Char) : Option Int :=
  (Text.signed32? word).filter (0 < ·)

theorem namesProcess_iff (word : List Char) (pid : Int) :
    NamesProcess word pid ↔ named? word = some pid := by
  rw [named?, Option.filter_eq_some_iff, Text.signed32?_eq_some_iff, decide_eq_true_eq,
    NamesProcess]
  constructor
  · rintro ⟨numeral, positive, most⟩
    exact ⟨⟨numeral, by omega, most⟩, positive⟩
  · rintro ⟨⟨numeral, -, most⟩, positive⟩
    exact ⟨numeral, positive, most⟩

theorem namesNobody_iff (word : List Char) :
    (∀ pid, ¬ NamesProcess word pid) ↔ named? word = none := by
  simp only [namesProcess_iff, Option.eq_none_iff_forall_ne_some, ne_eq]

theorem lists_iff (words : List (List Char)) (pids : List Int) :
    Lists words pids ↔ words.filterMap named? = pids := by
  constructor
  · intro lists
    induction lists with
    | nil => rfl
    | process named rest ih => rw [List.filterMap_cons_some ((namesProcess_iff ..).mp named), ih]
    | other nobody rest ih => rw [List.filterMap_cons_none ((namesNobody_iff _).mp nobody), ih]
  · rintro rfl
    induction words with
    | nil => exact .nil
    | cons word words ih =>
      cases read : named? word with
      | some pid =>
        rw [List.filterMap_cons_some read]
        exact .process ((namesProcess_iff ..).mpr read) ih
      | none =>
        rw [List.filterMap_cons_none read]
        exact .other ((namesNobody_iff _).mpr read) ih

theorem Lists.named {words : List (List Char)} {pids : List Int} (lists : Lists words pids) :
    ∀ pid ∈ pids, ∃ word ∈ words, NamesProcess word pid := by
  induction lists with
  | nil => nofun
  | process named rest ih =>
    intro pid listed
    rcases List.mem_cons.mp listed with rfl | later
    · exact ⟨_, List.mem_cons_self, named⟩
    · obtain ⟨word, member, is⟩ := ih pid later
      exact ⟨word, List.mem_cons_of_mem _ member, is⟩
  | other nobody rest ih =>
    intro pid listed
    obtain ⟨word, member, is⟩ := ih pid listed
    exact ⟨word, List.mem_cons_of_mem _ member, is⟩

/-- **Which children a process has**: those that the words of its list name, in the order in which
they stand there; one whose list cannot be read has none. -/
theorem children_eq_iff {φ : Type} [FileSystem φ] (files : φ) (root : Path) (pid : Int)
    (pids : List Int) :
    children files root pid = pids ↔
      (∃ text, FileSystem.readText files (childrenFile root pid) = .ok text ∧
        Lists ((text.toList.splitOnP Text.isBlank).filter (· ≠ [])) pids) ∨
      (∃ cause, FileSystem.readText files (childrenFile root pid) = .error cause ∧
        pids = []) := by
  unfold children
  cases FileSystem.readText files (childrenFile root pid) with
  | ok text =>
    have named (words : List (List Char)) :
        (words.filterMap Text.signed32?).filter (0 < ·) = words.filterMap named? :=
      List.filter_filterMap
    simp only [← Text.words_eq, lists_iff, named]
    simp
  | error cause => simp [eq_comm]

/-! ### The recursive pre-order -/

/-- **The recursive pre-order**: the processes that are visited from some on, in order, when those
that were seen before are skipped. -/
inductive PreOrder (children : Int → List Int) : List Int → List Int → List Int → Prop where
  | nil {seen : List Int} : PreOrder children seen [] []
  | skip {seen siblings order : List Int} {pid : Int} (skipped : pid ≤ 0 ∨ pid ∈ seen)
    (rest : PreOrder children seen siblings order) : PreOrder children seen (pid :: siblings) order
  | visit {seen siblings below after : List Int} {pid : Int}
    (fresh : ¬ (pid ≤ 0 ∨ pid ∈ seen))
    (descent : PreOrder children (pid :: seen) (children pid) below)
    (rest : PreOrder children (below.reverse ++ pid :: seen) siblings after) :
    PreOrder children seen (pid :: siblings) (pid :: below ++ after)

/-- The processes that descend from one, itself among them. -/
inductive Descends (children : Int → List Int) (root : Int) : Int → Prop where
  | root (positive : 0 < root) : Descends children root root
  | child {parent child : Int} (descends : Descends children root parent)
    (listed : child ∈ children parent) (positive : 0 < child) : Descends children root child

theorem Descends.positive {children : Int → List Int} {root pid : Int}
    (descends : Descends children root pid) : 0 < root := by
  induction descends with
  | root positive => exact positive
  | child _ _ _ ih => exact ih

theorem Descends.trans {children : Int → List Int} {root middle pid : Int}
    (first : Descends children root middle) (second : Descends children middle pid) :
    Descends children root pid := by
  induction second with
  | root positive => exact first
  | child _ listed positive ih => exact .child ih listed positive

namespace PreOrder

variable {children : Int → List Int} {seen pids order : List Int}

theorem unique {other : List Int} (one : PreOrder children seen pids order)
    (another : PreOrder children seen pids other) : other = order := by
  induction one generalizing other with
  | nil =>
    cases another
    rfl
  | skip skipped _ ih =>
    cases another with
    | skip _ rest => exact ih rest
    | visit fresh _ _ => exact absurd skipped fresh
  | visit fresh _ _ ihDescent ihRest =>
    cases another with
    | skip skipped _ => exact absurd skipped fresh
    | visit _ descent rest =>
      cases ihDescent descent
      cases ihRest rest
      rfl

/-- Only processes are visited, and none that was seen before. -/
theorem fresh (order_ : PreOrder children seen pids order) :
    ∀ pid ∈ order, 0 < pid ∧ pid ∉ seen := by
  induction order_ with
  | nil => exact nofun
  | skip _ _ ih => exact ih
  | @visit seen _ below after pid fresh _ _ ihDescent ihRest =>
    rw [not_or, Int.not_le] at fresh
    simp only [List.cons_append, List.mem_cons, List.mem_append]
    rintro visited (rfl | inBelow | inAfter)
    · exact fresh
    · have ⟨positive, new⟩ := ihDescent visited inBelow
      exact ⟨positive, fun old => new (List.mem_cons_of_mem pid old)⟩
    · have ⟨positive, new⟩ := ihRest visited inAfter
      exact ⟨positive, fun old => new (by simp [old])⟩

theorem nodup (order_ : PreOrder children seen pids order) : order.Nodup := by
  induction order_ with
  | nil => exact List.nodup_nil
  | skip _ _ ih => exact ih
  | @visit seen _ below after pid fresh descent rest ihDescent ihRest =>
    rw [List.cons_append, List.nodup_cons, List.nodup_append]
    have newBelow := descent.fresh
    have newAfter := rest.fresh
    refine ⟨fun again => ?_, ihDescent, ihRest, fun one inBelow other inAfter same => ?_⟩
    · rcases List.mem_append.mp again with inBelow | inAfter
      · exact (newBelow pid inBelow).2 List.mem_cons_self
      · exact (newAfter pid inAfter).2 (by simp)
    · subst same
      exact (newAfter one inAfter).2 (by simp [inBelow])

/-- Every process that is given is visited, or was seen before. -/
theorem covers (order_ : PreOrder children seen pids order) :
    ∀ pid ∈ pids, 0 < pid → pid ∈ seen ∨ pid ∈ order := by
  induction order_ with
  | nil => exact nofun
  | @skip _ _ _ pid skipped _ ih =>
    rintro given (_ | ⟨_, later⟩) positive
    · exact Or.inl (skipped.resolve_left (Int.not_le.mpr positive))
    · exact ih given later positive
  | visit _ _ _ _ ihRest =>
    rintro given (_ | ⟨_, later⟩) positive
    · exact Or.inr (by simp)
    · have covered := ihRest given later positive
      simp only [List.mem_append, List.mem_reverse, List.mem_cons] at covered ⊢
      grind

/-- Every child of a process that is visited is visited, or was seen before. -/
theorem closed (order_ : PreOrder children seen pids order) :
    ∀ pid ∈ order, ∀ child ∈ children pid, 0 < child →
      child ∈ seen ∨ child ∈ order := by
  induction order_ with
  | nil => exact nofun
  | skip _ _ ih => exact ih
  | @visit seen _ below after pid _ descent _ ihDescent ihRest =>
    simp only [List.cons_append, List.mem_cons, List.mem_append]
    rintro visited (rfl | inBelow | inAfter) child listed positive
    · have covered := descent.covers child listed positive
      rw [List.mem_cons] at covered
      grind
    · have covered := ihDescent visited inBelow child listed positive
      rw [List.mem_cons] at covered
      grind
    · have covered := ihRest visited inAfter child listed positive
      simp only [List.mem_append, List.mem_reverse, List.mem_cons] at covered
      grind

/-- Nothing is visited but what descends from a process that is given. -/
theorem descends (order_ : PreOrder children seen pids order) :
    ∀ pid ∈ order, ∃ root ∈ pids, Descends children root pid := by
  induction order_ with
  | nil => exact nofun
  | skip _ _ ih =>
    intro visited inOrder
    obtain ⟨root, given, descends⟩ := ih visited inOrder
    exact ⟨root, List.mem_cons_of_mem _ given, descends⟩
  | @visit _ _ _ _ pid fresh descent _ ihDescent ihRest =>
    rw [not_or, Int.not_le] at fresh
    simp only [List.cons_append, List.mem_cons, List.mem_append]
    rintro visited (rfl | inBelow | inAfter)
    · exact ⟨visited, .inl rfl, .root fresh.1⟩
    · obtain ⟨child, listed, descends⟩ := ihDescent visited inBelow
      have below := Descends.child (.root fresh.1) listed descends.positive
      exact ⟨pid, .inl rfl, below.trans descends⟩
    · obtain ⟨root, given, descends⟩ := ihRest visited inAfter
      exact ⟨root, .inr given, descends⟩

/-- **The order from a root holds what descends from it.** -/
theorem mem_iff {root : Int} (order_ : PreOrder children [] [root] order) (pid : Int) :
    pid ∈ order ↔ Descends children root pid := by
  constructor
  · intro visited
    obtain ⟨_, given, descends⟩ := order_.descends pid visited
    rw [List.mem_singleton.mp given] at descends
    exact descends
  · intro descends
    induction descends with
    | root positive =>
      exact (order_.covers root List.mem_cons_self positive).resolve_left List.not_mem_nil
    | child _ listed positive ih =>
      exact (order_.closed _ ih _ listed positive).resolve_left List.not_mem_nil

end PreOrder

/-! ### Pids are bounded, so the order comes to an end -/

/-- The pids up to a bound that were not seen. -/
def unseen (bound : Int) (seen : List Int) : Finset Nat :=
  (Finset.range (bound.toNat + 1)).filter fun pid => (pid : Int) ∉ seen

theorem unseen_subset (bound : Int) {seen more : List Int} (grown : seen ⊆ more) :
    unseen bound more ⊆ unseen bound seen := by
  intro pid left
  rw [unseen, Finset.mem_filter] at left ⊢
  exact ⟨left.1, fun old => left.2 (grown old)⟩

/-- A process that is marked is one less to be seen. -/
theorem card_unseen_cons_lt {bound pid : Int} {seen : List Int}
    (fresh : ¬ (pid ≤ 0 ∨ pid ∈ seen))
    (bounded : pid ≤ bound) : (unseen bound (pid :: seen)).card < (unseen bound seen).card := by
  rw [not_or, Int.not_le] at fresh
  refine Finset.card_lt_card
    ⟨unseen_subset bound (List.subset_cons_self pid seen), fun all => ?_⟩
  have same : (pid.toNat : Int) = pid := Int.toNat_of_nonneg (Int.le_of_lt fresh.1)
  have left : pid.toNat ∈ unseen bound seen := by
    rw [unseen, Finset.mem_filter, Finset.mem_range, same]
    exact ⟨by omega, fresh.2⟩
  have still := all left
  rw [unseen, Finset.mem_filter, same] at still
  exact still.2 List.mem_cons_self

theorem exists_preOrder_of_card_lt {children : Int → List Int} {bound : Int}
    (bounded : ∀ pid, ∀ child ∈ children pid, child ≤ bound) (left : Nat)
    {seen pids : List Int}
    (few : (unseen bound seen).card < left) (within : ∀ pid ∈ pids, pid ≤ bound) :
    ∃ order, PreOrder children seen pids order := by
  -- Going down leaves fewer processes to be seen, going on leaves fewer siblings.
  induction left generalizing seen pids with
  | zero => exact absurd few (Nat.not_lt_zero _)
  | succ left down =>
    induction pids generalizing seen with
    | nil => exact ⟨[], .nil⟩
    | cons pid siblings on =>
      have ⟨atBound, others⟩ := List.forall_mem_cons.mp within
      by_cases fresh : pid ≤ 0 ∨ pid ∈ seen
      · obtain ⟨order, rest⟩ := on few others
        exact ⟨order, .skip fresh rest⟩
      · have fewer := card_unseen_cons_lt fresh atBound
        have room : (unseen bound (pid :: seen)).card < left := by omega
        obtain ⟨below, descent⟩ := down room (bounded pid)
        have grown : seen ⊆ below.reverse ++ pid :: seen := fun old was => by simp [was]
        have notMore := Finset.card_le_card (unseen_subset bound grown)
        have still : (unseen bound (below.reverse ++ pid :: seen)).card < left + 1 := by omega
        obtain ⟨after, rest⟩ := on still others
        exact ⟨pid :: below ++ after, .visit fresh descent rest⟩

/-- The children that are listed have pids of 32 bits. -/
theorem child_le {φ : Type} [FileSystem φ] (files : φ) (root : Path) {pid child : Int}
    (listed : child ∈ children files root pid) : child ≤ 2147483647 := by
  obtain ⟨text, -, lists⟩ | ⟨cause, -, none⟩ := (children_eq_iff files root pid _).mp rfl
  · obtain ⟨word, -, named⟩ := lists.named child listed
    exact named.2.2
  · rw [none] at listed
    cases listed

/-- **There is a pre-order of what the system shows**, whatever that is. -/
theorem exists_preOrder {φ : Type} [FileSystem φ] (files : φ) (root : Path) (pid : Int) :
    ∃ order, PreOrder (children files root) [] [pid] order := by
  have bounded :
      ∀ parent, ∀ child ∈ children files root parent, child ≤ max pid 2147483647 :=
    fun _ _ listed => Int.le_trans (child_le files root listed) (Int.le_max_right ..)
  exact exists_preOrder_of_card_lt bounded _ (Nat.lt_succ_self _)
    (List.forall_mem_singleton.mpr (Int.le_max_left ..))

/-! ### The walk -/

section Walk

variable {children : Int → List Int} {seen pids order : List Int}

/-- **The walk takes a stretch of the worklist as the recursion does**, if there is room. -/
theorem walkFrom_preOrder (order_ : PreOrder children seen pids order) {limit : Nat}
    (room : seen.length + order.length ≤ limit) (rest : List Int) :
    walkFrom children limit seen (pids ++ rest) =
      walkFrom children limit (order.reverse ++ seen) rest := by
  induction order_ generalizing rest with
  | nil => rfl
  | skip skipped _ ih =>
    rw [List.cons_append, walk_step_known _ _ _ _ skipped]
    exact ih room rest
  | @visit seen siblings below after pid fresh _ _ ihDescent ihRest =>
    simp only [List.cons_append, List.length_cons, List.length_append] at room
    rw [List.cons_append, walk_step_fresh _ _ fresh (by omega), ihDescent (by simp; omega),
      ihRest (by simp; omega)]
    simp

/-- **Where there is no room the walk breaks off**, with the beginning of the order. -/
theorem walkFrom_preOrder_full (order_ : PreOrder children seen pids order) {limit : Nat}
    (started : seen.length ≤ limit) (full : limit < seen.length + order.length)
    (rest : List Int) :
    walkFrom children limit seen (pids ++ rest) =
      (order.take (limit - seen.length)).reverse ++ seen := by
  induction order_ generalizing rest with
  | nil => exact absurd full (by simpa using started)
  | skip skipped _ ih =>
    rw [List.cons_append, walk_step_known _ _ _ _ skipped]
    exact ih started full rest
  | @visit seen siblings below after pid fresh descent _ ihDescent ihRest =>
    simp only [List.cons_append, List.length_cons, List.length_append] at full
    by_cases last : limit ≤ seen.length
    · have none : limit - seen.length = 0 := by omega
      rw [List.cons_append, walkFrom, if_neg fresh, if_pos last, none]
      rfl
    · have one : limit - seen.length = limit - (pid :: seen).length + 1 := by
        rw [List.length_cons]
        omega
      rw [List.cons_append, walk_step_fresh _ _ fresh (Nat.lt_of_not_le last), one,
        List.cons_append, List.take_succ_cons]
      by_cases deep : limit < (pid :: seen).length + below.length
      · rw [ihDescent (by simp; omega) deep, List.take_append_of_le_length (by simp at *; omega)]
        simp
      · rw [walkFrom_preOrder descent (by omega), ihRest (by simp at *; omega) (by simp; omega)]
        have split : limit - (pid :: seen).length =
            below.length + (limit - (below.reverse ++ pid :: seen).length) := by
          simp at *
          omega
        rw [split, List.take_length_add_append]
        simp

/-- **The walk is the beginning of the pre-order.** -/
theorem walk_eq_take {root : Int} (order_ : PreOrder children [] [root] order) (limit : Nat) :
    walk children limit root = order.take limit := by
  unfold walk
  by_cases room : order.length ≤ limit
  · have fits : ([] : List Int).length + order.length ≤ limit := by simpa using room
    have whole := walkFrom_preOrder order_ fits []
    rw [List.append_nil] at whole
    rw [whole, List.take_of_length_le room, List.append_nil, walkFrom, List.reverse_reverse]
  · have full : limit < ([] : List Int).length + order.length := by simpa using room
    have cut := walkFrom_preOrder_full order_ (Nat.zero_le limit) full []
    rw [List.append_nil] at cut
    rw [cut]
    simp

end Walk

/-! ### What is looked at -/

section Reading

variable {φ : Type} [FileSystem φ]

/-- The first argument on a command line, as far as that is looked at: all before the first zero. -/
def IsFirstArgument (argument line : List UInt8) : Prop :=
  0 ∉ argument ∧ (argument = line.take 4095 ∨ argument ++ [0] <+: line.take 4095)

/-- **A process has a name** if its command line can be read and starts with an argument. -/
def Named (files : φ) (root : Path) (pid : Int) (name : String) : Prop :=
  ∃ line argument, FileSystem.read files ((directory root pid).child "cmdline") = .ok line ∧
    IsFirstArgument argument line ∧ argument ≠ [] ∧ name = Utf8.lossyString argument

theorem takeWhile_eq_iff (argument line : List UInt8) :
    line.takeWhile (· != 0) = argument ↔
      0 ∉ argument ∧ (argument = line ∨ argument ++ [0] <+: line) := by
  induction line generalizing argument with
  | nil => cases argument <;> simp
  | cons byte line ih =>
    by_cases zero : byte = 0
    · subst zero
      cases argument with
      | nil => simp
      | cons first more =>
        -- An argument that is not empty would have to start with the zero.
        refine iff_of_false (by simp) ?_
        rintro ⟨zeroFree, same | starts⟩
        · exact zeroFree ((List.cons.inj same).1 ▸ List.mem_cons_self)
        · exact zeroFree ((List.cons_prefix_cons.mp starts).1 ▸ List.mem_cons_self)
    · rw [List.takeWhile_cons_of_pos (by simpa using zero)]
      cases argument with
      | nil => simp [Ne.symm zero]
      | cons first more =>
        simp only [List.cons.injEq, ih, List.mem_cons, not_or, List.cons_append,
          List.cons_prefix_cons]
        grind

theorem isFirstArgument_iff (argument line : List UInt8) :
    IsFirstArgument argument line ↔
      (line.take longestCommandLine).takeWhile (· != 0) = argument :=
  (takeWhile_eq_iff argument (line.take 4095)).symm

theorem programName?_eq_some_iff (line : List UInt8) (name : String) :
    programName? line = some name ↔
      ∃ argument, IsFirstArgument argument line ∧ argument ≠ [] ∧
        name = Utf8.lossyString argument := by
  simp only [isFirstArgument_iff, exists_eq_left', programName?, List.isEmpty_iff]
  split
  · rename_i empty
    simp [empty]
  · rename_i nonempty
    simp [nonempty, eq_comm]

theorem command?_eq_some_iff (files : φ) (root : Path) (pid : Int) (name : String) :
    command? files root pid = some name ↔ Named files root pid name := by
  unfold command? Named
  cases FileSystem.read files ((directory root pid).child "cmdline") with
  | ok line => simp [programName?_eq_some_iff]
  | error error => simp

/-- Whether two file systems show the same of a process. -/
def ShownAlike (files other : φ) (root : Path) (pid : Int) : Prop :=
  FileSystem.read other ((directory root pid).child "cmdline") =
      FileSystem.read files ((directory root pid).child "cmdline") ∧
    FileSystem.readText other (childrenFile root pid) =
      FileSystem.readText files (childrenFile root pid)

theorem subset_walkFrom (children : Int → List Int) (limit : Nat) (visited worklist : List Int) :
    visited ⊆ walkFrom children limit visited worklist := by
  fun_induction walkFrom children limit visited worklist with
  | case1 visited => exact List.Subset.refl _
  | case2 visited pid rest _ ih => exact ih
  | case3 visited pid rest _ _ => exact List.Subset.refl _
  | case4 visited pid rest _ _ ih => exact fun old was => ih (List.mem_cons_of_mem pid was)

/-- **A walk looks at the children of nobody but those it visits.** -/
theorem walkFrom_congr {children other : Int → List Int} {limit : Nat}
    {visited worklist : List Int}
    (alike : ∀ pid ∈ walkFrom children limit visited worklist, other pid = children pid) :
    walkFrom other limit visited worklist = walkFrom children limit visited worklist := by
  fun_induction walkFrom children limit visited worklist with
  | case1 visited => rw [walkFrom]
  | case2 visited pid rest skipped ih => rw [walk_step_known _ _ _ _ skipped, ih alike]
  | case3 visited pid rest fresh full => rw [walkFrom, if_neg fresh, if_pos full]
  | case4 visited pid rest fresh room ih =>
    have same := alike pid (subset_walkFrom _ _ _ _ List.mem_cons_self)
    rw [walk_step_fresh _ _ fresh (Nat.lt_of_not_le room), same, ih alike]

/-- **Nothing is looked at but the processes of the walk.** -/
theorem commands_eq_of_shownAlike {files other : φ} {root : Path} {limit : Nat} {pid : Int}
    (alike : ∀ visited ∈ walk (children files root) limit pid,
      ShownAlike files other root visited) :
    commands other root limit pid = commands files root limit pid := by
  have sameChildren : ∀ visited ∈ walk (children files root) limit pid,
      children other root visited = children files root visited := by
    intro visited inWalk
    rw [children, children, (alike visited inWalk).2]
  have sameNames : ∀ visited ∈ walk (children files root) limit pid,
      command? other root visited = command? files root visited := by
    intro visited inWalk
    rw [command?, command?, (alike visited inWalk).1]
  have sameWalk : walk (children other root) limit pid = walk (children files root) limit pid := by
    unfold walk at sameChildren ⊢
    simp only [List.mem_reverse] at sameChildren
    rw [walkFrom_congr sameChildren]
  rw [commands, commands, sameWalk, List.filterMap_congr sameNames]

/-! ### The statement -/

/-- **The programs of a process tree** are those of the first processes of the recursive pre-order,
each listed once and where it is met first. Whoever descends from the root is among them if there is
room for all, and nobody else is looked at. Which children a process has says `children_eq_iff`. -/
theorem commands_preOrder (files : φ) (root : Path) (limit : Nat) (pid : Int) :
    ∃ order, (∀ other, PreOrder (children files root) [] [pid] other ↔ other = order) ∧
      (commands files root limit pid).commands =
        (((order.take limit).filterMap (command? files root)).filter (· ≠ "")).eraseDups ∧
      (∀ process name, command? files root process = some name ↔
      Named files root process name) ∧
      ({process | Descends (children files root) pid process}.ncard ≤ limit →
        ∀ process, Descends (children files root) pid process →
          process ∈ order.take limit) ∧
      (order.take limit).length ≤ limit ∧
      ∀ other : φ, (∀ process ∈ order.take limit, ShownAlike files other root process) →
        commands other root limit pid = commands files root limit pid := by
  obtain ⟨order, order_⟩ := exists_preOrder files root pid
  have walked := walk_eq_take order_ limit
  refine ⟨order, fun other => ⟨order_.unique, ?_⟩, ?_, command?_eq_some_iff files root, ?_,
    List.length_take_le limit order, fun other alike => ?_⟩
  · rintro rfl
    exact order_
  · rw [commands, CommandList.commands_ofCommands, walked]
  · intro few process descends
    have finite : {process | Descends (children files root) pid process} = ↑order.toFinset := by
      ext process
      simp [order_.mem_iff]
    rw [finite, Set.ncard_coe_finset, List.toFinset_card_of_nodup order_.nodup] at few
    rw [List.take_of_length_le few]
    exact (order_.mem_iff process).mpr descends
  · rw [← walked] at alike
    exact commands_eq_of_shownAlike alike

end Reading

end ProcessTree

end LaunchSupervisor
