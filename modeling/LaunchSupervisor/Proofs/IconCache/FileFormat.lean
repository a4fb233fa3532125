import LaunchSupervisor.IconCache.Store

/-!
**What a file of mappings is read as.** A line is read back as its mapping only if nothing in the
mapping is taken for the end of a line or of the program; a carriage return at the end of an action
is taken for part of the line end.

* `WellKept`: each program once, and no more than fit; `upsert` keeps it, so a file has it too.
* `ofText_text`: the text of mappings is read line by line.
* `ofText_text_iff`: mappings are what their text is read as just when each of them is storable.
-/

namespace LaunchSupervisor.IconCache

/-! ### Each program once -/

/-- Each program stands in a list of mappings once, and no more mappings than a store holds. -/
structure WellKept (entries : List Mapping) : Prop where
  distinct : (entries.map (·.command)).Nodup
  bound : entries.length ≤ capacity

theorem wellKept_nil : WellKept [] :=
  ⟨List.nodup_nil, Nat.zero_le _⟩

theorem nodup_boundedTail {entries : List Mapping} (distinct : (entries.map (·.command)).Nodup) :
    ((boundedTail entries).map (·.command)).Nodup := by
  unfold boundedTail
  split
  · rw [List.map_tail]
    exact distinct.sublist (List.tail_sublist _)
  · exact distinct

theorem WellKept.upsert {entries : List Mapping} (kept : WellKept entries) (mapping : Mapping) :
    WellKept (upsert entries mapping) := by
  refine ⟨?_, length_upsert_le mapping kept.bound⟩
  by_cases present : known entries mapping.command
  · rw [upsert_commands_known present]
    exact kept.distinct
  · have absent : mapping.command ∉ entries.map (·.command) := by rwa [← known_iff]
    rw [upsert_commands_fresh (Bool.eq_false_iff.mpr present)]
    refine nodup_boundedTail ?_
    rw [List.map_append, List.nodup_append]
    refine ⟨kept.distinct, by simp, fun command member other new same => absent ?_⟩
    rwa [same, List.mem_singleton.mp new] at member

theorem WellKept.foldl_upsert {entries : List Mapping} (kept : WellKept entries)
    (mappings : List Mapping) : WellKept (mappings.foldl IconCache.upsert entries) := by
  induction mappings generalizing entries with
  | nil => exact kept
  | cons mapping rest ih => exact ih (kept.upsert mapping)

theorem wellKept_ofText (text : List Char) : WellKept (Store.ofText text) :=
  wellKept_nil.foldl_upsert _

/-- Mappings of distinct programs are recorded one behind the other. -/
theorem foldl_upsert_of_distinct {entries mappings : List Mapping}
    (kept : WellKept (entries ++ mappings)) :
    mappings.foldl upsert entries = entries ++ mappings := by
  induction mappings generalizing entries with
  | nil => rw [List.foldl_nil, List.append_nil]
  | cons mapping rest ih =>
    have whole : entries ++ [mapping] ++ rest = entries ++ mapping :: rest := List.append_assoc ..
    have absent : ¬ known entries mapping.command := by
      rw [known_iff]
      intro member
      have distinct := kept.distinct
      rw [List.map_append, List.nodup_append] at distinct
      exact distinct.2.2 _ member mapping.command (by simp) rfl
    have fits : ¬ (entries ++ [mapping]).length > capacity := by
      have bound := kept.bound
      simp only [List.length_append, List.length_cons, List.length_nil] at bound ⊢
      omega
    have added : upsert entries mapping = entries ++ [mapping] := by
      rw [upsert_commands_fresh (Bool.eq_false_iff.mpr absent), boundedTail, if_neg fits]
    rw [List.foldl_cons, added, ih (whole ▸ kept), whole]

theorem mem_of_mem_upsert {entries : List Mapping} {mapping entry : Mapping}
    (member : entry ∈ upsert entries mapping) : entry ∈ entries ∨ entry = mapping := by
  unfold upsert at member
  split at member
  · obtain ⟨old, present, rfl⟩ := List.mem_map.mp member
    split
    · exact .inr rfl
    · exact .inl present
  · unfold boundedTail at member
    split at member
    · simpa using List.mem_of_mem_tail member
    · simpa using member

theorem mem_of_mem_foldl_upsert {entries mappings : List Mapping} {entry : Mapping}
    (member : entry ∈ mappings.foldl upsert entries) :
    entry ∈ entries ∨ entry ∈ mappings := by
  induction mappings generalizing entries with
  | nil => exact .inl member
  | cons mapping rest ih =>
    rcases ih member with recorded | later
    · rcases mem_of_mem_upsert recorded with old | rfl
      · exact .inl old
      · exact .inr List.mem_cons_self
    · exact .inr (List.mem_cons_of_mem _ later)

/-! ### The line of a mapping -/

/-- A mapping that a line can be read as. -/
structure Mapping.Legible (mapping : Mapping) : Prop where
  command_filled : mapping.command ≠ ""
  command_oneWord : '\t' ∉ mapping.command.toList
  command_oneLine : '\n' ∉ mapping.command.toList
  action_filled : mapping.action ≠ ""
  action_oneLine : '\n' ∉ mapping.action.toList

/-- **A mapping whose line is read as that mapping**: a carriage return at its end would be taken
for part of the line end. -/
structure Mapping.Storable (mapping : Mapping) : Prop extends mapping.Legible where
  action_closed : mapping.action.toList.getLast? ≠ some '\r'

instance (mapping : Mapping) : Decidable mapping.Legible :=
  decidable_of_iff
    (mapping.command ≠ "" ∧ '\t' ∉ mapping.command.toList ∧
      '\n' ∉ mapping.command.toList ∧ mapping.action ≠ "" ∧ '\n' ∉ mapping.action.toList)
    ⟨fun ⟨filled, oneWord, oneLine, actionFilled, actionOneLine⟩ =>
        ⟨filled, oneWord, oneLine, actionFilled, actionOneLine⟩,
      fun legible => ⟨legible.command_filled, legible.command_oneWord, legible.command_oneLine,
        legible.action_filled, legible.action_oneLine⟩⟩

instance (mapping : Mapping) : Decidable mapping.Storable :=
  decidable_of_iff (mapping.Legible ∧ mapping.action.toList.getLast? ≠ some '\r')
    ⟨fun ⟨legible, closed⟩ => ⟨legible, closed⟩,
      fun storable => ⟨storable.toLegible, storable.action_closed⟩⟩

namespace Store

theorem mapping?_eq_some_iff (line : List Char) (mapping : Mapping) :
    mapping? line = some mapping ↔
      line = mapping.command.toList ++ '\t' :: mapping.action.toList ∧
        '\t' ∉ mapping.command.toList ∧ mapping.command ≠ "" ∧ mapping.action ≠ "" := by
  constructor
  · intro read
    unfold mapping? at read
    split at read
    · cases read
    · rename_i command action found
      obtain ⟨whole, oneWord⟩ := (Text.splitFirst_eq_some_iff ..).mp found
      split at read
      · cases read
      · rename_i filled
        cases read
        simp only [Bool.or_eq_true, List.isEmpty_iff, not_or] at filled
        simpa using ⟨whole, oneWord, filled⟩
  · rintro ⟨whole, oneWord, commandFilled, actionFilled⟩
    have found := (Text.splitFirst_eq_some_iff ..).mpr ⟨whole, oneWord⟩
    simp [mapping?, found, commandFilled, actionFilled]

/-- What a file is read as can all be read from lines. -/
theorem legible_of_mem_ofText {text : List Char} {mapping : Mapping}
    (member : mapping ∈ ofText text) : mapping.Legible := by
  rcases mem_of_mem_foldl_upsert member with none | read
  · cases none
  · obtain ⟨line, present, found⟩ := List.mem_filterMap.mp read
    obtain ⟨whole, oneWord, commandFilled, actionFilled⟩ := (mapping?_eq_some_iff _ _).mp found
    have oneLine := Text.newline_not_mem_lines present
    rw [whole] at oneLine
    simp only [List.mem_append, List.mem_cons, not_or] at oneLine
    exact ⟨commandFilled, oneWord, oneLine.1, actionFilled, oneLine.2.2⟩

/-- The line of a mapping without its line feed. -/
def body (mapping : Mapping) : List Char :=
  mapping.command.toList ++ '\t' :: mapping.action.toList

/-- What the line of a mapping is read as. -/
def reread? (mapping : Mapping) : Option Mapping :=
  mapping? (Text.closeLine (body mapping).reverse)

theorem lines_text {entries : List Mapping} (legible : ∀ entry ∈ entries, entry.Legible) :
    Text.lines (text entries) =
      entries.map fun entry => Text.closeLine (body entry).reverse := by
  induction entries with
  | nil => rfl
  | cons entry rest ih =>
    have first := legible entry List.mem_cons_self
    have plain : '\n' ∉ body entry := by
      simp [body, first.command_oneLine, first.action_oneLine]
    have whole : text (entry :: rest) = body entry ++ '\n' :: text rest := by
      simp [text, line, body]
    rw [whole, Text.lines_append_newline _ _ plain,
      ih fun other member => legible other (List.mem_cons_of_mem _ member), List.map_cons]

theorem closeLine_body {mapping : Mapping} (legible : mapping.Legible) :
    Text.closeLine (body mapping).reverse = mapping.command.toList ++ '\t' ::
      if mapping.action.toList.getLast? = some '\r' then mapping.action.toList.dropLast
      else mapping.action.toList := by
  have filled : mapping.action.toList ≠ [] := by simpa using legible.action_filled
  have last : (body mapping).getLast? = mapping.action.toList.getLast? := by
    rw [body, List.append_cons, List.getLast?_append, List.getLast?_eq_some_getLast filled]
    rfl
  have start : (body mapping).dropLast =
      mapping.command.toList ++ '\t' :: mapping.action.toList.dropLast := by
    rw [body, List.append_cons, List.dropLast_append_of_ne_nil filled, ← List.append_cons]
  rw [Text.closeLine_reverse, last, start, body]
  split <;> rfl

/-- The program is read back, whatever becomes of the action. -/
theorem command_of_reread? {mapping read : Mapping} (legible : mapping.Legible)
    (found : reread? mapping = some read) : read.command = mapping.command := by
  obtain ⟨whole, oneWord, -, -⟩ := (mapping?_eq_some_iff _ _).mp found
  rw [closeLine_body legible] at whole
  have first := (Text.splitFirst_eq_some_iff ..).mpr ⟨whole, oneWord⟩
  rw [(Text.splitFirst_eq_some_iff ..).mpr ⟨rfl, legible.command_oneWord⟩] at first
  exact String.toList_inj.mp (congrArg Prod.fst (Option.some.inj first)).symm

theorem reread?_eq_self_iff {mapping : Mapping} (legible : mapping.Legible) :
    reread? mapping = some mapping ↔ mapping.Storable := by
  have filled : mapping.action.toList ≠ [] := by simpa using legible.action_filled
  rw [reread?, mapping?_eq_some_iff, closeLine_body legible]
  constructor
  · rintro ⟨whole, -, -, -⟩
    refine ⟨legible, fun returned => ?_⟩
    rw [if_pos returned, List.append_cancel_left_eq, List.cons.injEq] at whole
    have shorter := congrArg List.length whole.2
    have long := List.length_pos_iff.mpr filled
    rw [List.length_dropLast] at shorter
    omega
  · intro storable
    rw [if_neg storable.action_closed]
    exact ⟨rfl, legible.command_oneWord, legible.command_filled, legible.action_filled⟩

/-! ### The file of a list of mappings -/

theorem commands_reread? {entries : List Mapping} (legible : ∀ entry ∈ entries, entry.Legible) :
    ((entries.filterMap reread?).map (·.command)).Sublist (entries.map (·.command)) := by
  induction entries with
  | nil => exact List.Sublist.slnil
  | cons entry rest ih =>
    have others := ih fun other member => legible other (List.mem_cons_of_mem _ member)
    rw [List.filterMap_cons]
    split
    · exact others.cons _
    · rename_i read found
      rw [List.map_cons, command_of_reread? (legible entry List.mem_cons_self) found]
      exact others.cons_cons _

/-- The text of mappings is read line by line. -/
theorem ofText_text {entries : List Mapping} (kept : WellKept entries)
    (legible : ∀ entry ∈ entries, entry.Legible) :
    ofText (text entries) = entries.filterMap reread? := by
  have readKept : WellKept ([] ++ entries.filterMap reread?) :=
    ⟨kept.distinct.sublist (commands_reread? legible),
      Nat.le_trans (List.length_filterMap_le _ _) kept.bound⟩
  have lineByLine : (Text.lines (text entries)).filterMap mapping? = entries.filterMap reread? := by
    rw [lines_text legible, List.filterMap_map]
    rfl
  rw [ofText, lineByLine, foldl_upsert_of_distinct readKept, List.nil_append]

theorem filterMap_eq_self_iff {α : Type} (f : α → Option α) (items : List α) :
    items.filterMap f = items ↔ ∀ item ∈ items, f item = some item := by
  induction items with
  | nil => simp
  | cons item rest ih =>
    rw [List.forall_mem_cons, ← ih, List.filterMap_cons]
    constructor
    · intro same
      split at same
      · have shorter := List.length_filterMap_le f rest
        rw [same, List.length_cons] at shorter
        omega
      · rename_i found
        rw [List.cons.injEq] at same
        rw [found, same.1]
        exact ⟨rfl, same.2⟩
    · rintro ⟨first, others⟩
      rw [first, others]

/-- **Mappings are what their text is read as just when each of them is storable.** -/
theorem ofText_text_iff {entries : List Mapping} (kept : WellKept entries) :
    ofText (text entries) = entries ↔ ∀ entry ∈ entries, entry.Storable := by
  constructor
  · intro same
    -- What was read is legible, so it is only carriage returns that can still be lost.
    have legible : ∀ entry ∈ entries, entry.Legible := fun entry member =>
      legible_of_mem_ofText (same.symm ▸ member)
    rw [ofText_text kept legible, filterMap_eq_self_iff] at same
    exact fun entry member => (reread?_eq_self_iff (legible entry member)).mp (same entry member)
  · intro storable
    rw [ofText_text kept fun entry member => (storable entry member).toLegible,
      filterMap_eq_self_iff]
    exact fun entry member =>
      (reread?_eq_self_iff (storable entry member).toLegible).mpr (storable entry member)

end Store

end LaunchSupervisor.IconCache
