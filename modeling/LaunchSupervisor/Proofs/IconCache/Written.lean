import LaunchSupervisor.IconCache.ActionFile
import LaunchSupervisor.Proofs.Text.Lines

/-!
**Action files as they are written.** A file is a sequence of blocks with other lines between them.
A block has a header with its opening brace on the same line or alone on a later one, then lines
that set fields, in any order and as often as one likes, and a closing brace. Lines of blanks and
comments may stand anywhere, and a comment may hold braces.

* `Written.Item`: what a file consists of, with what makes it well formed.
* `Written.Block.action?`: the action of a block, by the last line that sets each field.
* `held_foldl_apply`: the last line of a body that sets a field decides.
* `foldl_read_block`: a block is read as its action.
* `actions_of_consists`: a file is read as the actions of its blocks, in order.
-/

namespace LaunchSupervisor.IconCache

namespace Written

/-! ### What is written -/

/-- Blanks, any number of them. -/
structure Blanks where
  text : List Char
  blank : ∀ c ∈ text, Text.isBlank c

/-- So many spaces. -/
def Blanks.spaces (count : Nat) : Blanks :=
  ⟨List.replicate count ' ', fun _ member => List.eq_of_mem_replicate member ▸ rfl⟩

/-- A text has no braces. -/
def Braceless (text : List Char) : Prop :=
  '\x7b' ∉ text ∧ '\x7d' ∉ text

instance (text : List Char) : Decidable (Braceless text) :=
  inferInstanceAs (Decidable (_ ∧ _))

/-- A text without braces. -/
structure Unbraced where
  text : List Char
  braceless : Braceless text

/-- A line that starts with a keyword and a blank, wherever it is indented to. -/
def Leads (keyword : String) (line : List Char) : Prop :=
  ∃ (indent : Blanks) (c : Char) (rest : List Char),
    Text.isBlank c ∧ line = indent.text ++ (keyword.toList ++ c :: rest)

/-- A line that says nothing: a comment may hold anything. -/
inductive Filler where
  | blank (blanks : Blanks)
  | comment (indent : Blanks) (content : List Char)

/-- A line that sets a field. The value is all that follows the blanks after the keyword. -/
structure Setting where
  indent : Blanks
  field : Field
  gap : Blanks
  value : Unbraced
  parted : gap.text ≠ []
  trimmed : value.text.head?.all fun c => !Text.isBlank c

/-- A line of a body. -/
inductive BodyLine where
  | filler (filler : Filler)
  | setting (setting : Setting)
  /-- A line that sets nothing. -/
  | other (line : Unbraced) (free : ∀ field : Field, ¬ Leads field.keyword line.text)

/-- Where the opening brace of a block stands. -/
inductive Opening where
  /-- Behind the name, on the same line. -/
  | sameLine (after : Unbraced)
  /-- Alone on a later line. -/
  | ownLine (between : List Filler) (indent trail : Blanks)

/-- A block. -/
structure Block where
  indent : Blanks
  gap : Blanks
  parted : gap.text ≠ []
  name : Unbraced
  opening : Opening
  body : List BodyLine
  closingIndent : Blanks
  closingTrail : Blanks

/-- What a file consists of. -/
inductive Item where
  | filler (filler : Filler)
  /-- A line outside of blocks that starts none. -/
  | outside (line : List Char) (free : ¬ Leads "ACTION" line)
  | block (block : Block)

def Filler.line : Filler → List Char
  | .blank blanks => blanks.text
  | .comment indent content => indent.text ++ '#' :: content

def Setting.line (setting : Setting) : List Char :=
  setting.indent.text ++
    (setting.field.keyword.toList ++ (setting.gap.text ++ setting.value.text))

def BodyLine.line : BodyLine → List Char
  | .filler silent => silent.line
  | .setting sets => sets.line
  | .other line _ => line.text

/-- The header of a block, up to the name. -/
def Block.header (block : Block) : List Char :=
  block.indent.text ++ ("ACTION".toList ++ (block.gap.text ++ block.name.text))

/-- The lines of a block up to its opening brace. -/
def Block.start (block : Block) : List (List Char) :=
  match block.opening with
  | .sameLine after => [block.header ++ '\x7b' :: after.text]
  | .ownLine between indent trail =>
    block.header :: (between.map Filler.line ++ [indent.text ++ '\x7b' :: trail.text])

def Block.closing (block : Block) : List Char :=
  block.closingIndent.text ++ '\x7d' :: block.closingTrail.text

def Block.lines (block : Block) : List (List Char) :=
  block.start ++ (block.body.map BodyLine.line ++ [block.closing])

def Item.lines : Item → List (List Char)
  | .filler silent => [silent.line]
  | .outside line _ => [line]
  | .block whole => whole.lines

/-! ### What it says -/

/-- The value that a line gives to a field. -/
def BodyLine.value? (field : Field) : BodyLine → Option (List Char)
  | .setting sets => if sets.field = field then some sets.value.text else none
  | .filler _ => none
  | .other _ _ => none

/-- The value of the last line of a block that sets a field. -/
def Block.last? (block : Block) (field : Field) : Option (List Char) :=
  (block.body.filterMap (BodyLine.value? field)).getLast?

/-- The first word of that value. -/
def Block.word? (block : Block) (field : Field) : Option (List Char) :=
  (block.last? field).bind Text.firstWord

/-- The action of a block that runs a command with an icon: it has no type or is a command, it has a
command line that runs a program, and an icon, or else an icon for its instances. -/
def Block.action? (block : Block) : Option ActionIcon := do
  let icon ← (block.word? .icon).or (block.word? .instanceIcon)
  let line ← block.last? .commandLine
  let program ← programText? (trimLineEnd line)
  if (block.word? .type).all (· == "COMMAND".toList) then
    some ⟨.ofList program, .ofList icon⟩
  else none

def Item.action? : Item → Option ActionIcon
  | .filler _ => none
  | .outside _ _ => none
  | .block whole => whole.action?

/-! ### Lines by themselves -/

theorem trimStart_indented (indent : Blanks) (rest : List Char) :
    Text.trimStart (indent.text ++ rest) = Text.trimStart rest :=
  List.dropWhile_append_of_pos indent.blank

theorem trimStart_plain {c : Char} (plain : Text.isBlank c = false) (rest : List Char) :
    Text.trimStart (c :: rest) = c :: rest := by
  simp [Text.trimStart, plain]

theorem trimStart_blanks (blanks : Blanks) : Text.trimStart blanks.text = [] :=
  (Text.trimStart_eq_nil_iff _).mpr (List.all_eq_true.mpr blanks.blank)

theorem trimStart_value (setting : Setting) :
    Text.trimStart (setting.gap.text ++ setting.value.text) = setting.value.text := by
  rw [trimStart_indented]
  cases value : setting.value.text with
  | nil => rfl
  | cons c rest =>
    have trimmed := setting.trimmed
    rw [value] at trimmed
    exact trimStart_plain (by simpa using trimmed) rest

theorem keywordValue?_gap (keyword : String) {gap : Blanks} (parted : gap.text ≠ [])
    (rest : List Char) :
    keywordValue? keyword (keyword.toList ++ (gap.text ++ rest)) =
      some (Text.trimStart (gap.text ++ rest)) := by
  obtain ⟨c, more, same⟩ := List.exists_cons_of_ne_nil parted
  have blank : Text.isBlank c := gap.blank c (same ▸ List.mem_cons_self)
  simp [keywordValue?, same, blank]

/-- A line with the value of a keyword starts with it. -/
theorem leads_of_keywordValue? {keyword : String} {line : List Char}
    (found : (keywordValue? keyword (Text.trimStart line)).isSome) : Leads keyword line := by
  unfold keywordValue? at found
  split at found
  · rename_i starts
    obtain ⟨rest, same⟩ := List.isPrefixOf_iff_prefix.mp starts
    rw [← same, List.drop_left] at found
    cases rest with
    | nil => cases found
    | cons c rest =>
      have blanks : ∀ c ∈ line.takeWhile Text.isBlank, Text.isBlank c :=
        List.all_eq_true.mp List.all_takeWhile
      refine ⟨⟨line.takeWhile Text.isBlank, blanks⟩, c, rest, ?_, ?_⟩
      · cases blank : Text.isBlank c with
        | true => rfl
        | false => simp [blank] at found
      · rw [same]
        exact List.takeWhile_append_dropWhile.symm
  · cases found

theorem field?_keyword (field : Field) {gap : Blanks} (parted : gap.text ≠ [])
    (rest : List Char) :
    field? (field.keyword.toList ++ (gap.text ++ rest)) =
      some (field, Text.trimStart (gap.text ++ rest)) := by
  have own := keywordValue?_gap field.keyword parted rest
  -- No keyword starts with another one, so no earlier field takes the line.
  have apart : ∀ other : Field, other ≠ field →
      keywordValue? other.keyword (field.keyword.toList ++ (gap.text ++ rest)) = none := by
    intro other different
    cases other <;> cases field <;> first | exact absurd rfl different | rfl
  unfold field? Field.all
  cases field <;> simp [own, apart]

theorem field?_eq_none_of_free {line : List Char}
    (free : ∀ field : Field, ¬ Leads field.keyword line) :
    field? (Text.trimStart line) = none := by
  unfold field?
  rw [List.findSome?_eq_none_iff]
  intro field _
  rw [Option.map_eq_none_iff, ← Option.not_isSome_iff_eq_none]
  exact fun found => free field (leads_of_keywordValue? found)

/-! ### The fields of a block as far as it has been read -/

/-- What a block holds for a field. -/
def held (block : IconCache.Block) : Field → Option (List Char)
  | .type => block.type
  | .commandLine => block.commandLine
  | .icon => block.icon
  | .instanceIcon => block.instanceIcon

/-- What a block holds for a field that was set to a value. -/
def kept (value : List Char) : Field → Option (List Char)
  | .type => Text.firstWord value
  | .commandLine => some (trimLineEnd value)
  | .icon => Text.firstWord value
  | .instanceIcon => Text.firstWord value

theorem held_set (block : IconCache.Block) (set field : Field) (value : List Char) :
    held (block.set set value) field =
      if set = field then kept value field else held block field := by
  cases set <;> cases field <;> rfl

@[simp] theorem depth_set (block : IconCache.Block) (field : Field) (value : List Char) :
    (block.set field value).depth = block.depth := by
  cases field <;> rfl

/-- A block after a line of its body. -/
def BodyLine.apply (block : IconCache.Block) : BodyLine → IconCache.Block
  | .setting sets => block.set sets.field sets.value.text
  | .filler _ => block
  | .other _ _ => block

@[simp] theorem depth_apply (block : IconCache.Block) (line : BodyLine) :
    (line.apply block).depth = block.depth := by
  cases line with
  | setting sets => exact depth_set ..
  | filler silent | other line free => rfl

theorem held_apply (block : IconCache.Block) (line : BodyLine) (field : Field) :
    held (line.apply block) field =
      (line.value? field).elim (held block field) fun value => kept value field := by
  cases line with
  | setting sets =>
    show held (block.set sets.field sets.value.text) field = _
    rw [held_set]
    by_cases same : sets.field = field <;> simp [BodyLine.value?, same]
  | filler silent | other line free => rfl

@[simp] theorem depth_foldl_apply (block : IconCache.Block) (body : List BodyLine) :
    (body.foldl BodyLine.apply block).depth = block.depth := by
  induction body generalizing block with
  | nil => rfl
  | cons line rest ih => rw [List.foldl_cons, ih, depth_apply]

/-- **The last line of a body that sets a field decides** what the block holds for it. -/
theorem held_foldl_apply (block : IconCache.Block) (body : List BodyLine) (field : Field) :
    held (body.foldl BodyLine.apply block) field =
      (body.filterMap (BodyLine.value? field)).getLast?.elim (held block field)
        fun value => kept value field := by
  induction body generalizing block with
  | nil => rfl
  | cons line rest ih =>
    rw [List.foldl_cons, ih, held_apply]
    cases sets : line.value? field with
    | none => rw [List.filterMap_cons_none sets, Option.elim_none]
    | some value =>
      rw [List.filterMap_cons_some sets, Option.elim_some, List.getLast?_cons, Option.elim_some]
      cases (rest.filterMap (BodyLine.value? field)).getLast? <;> rfl

/-! ### How lines are read -/

/-- A line is read from its first character that is no blank. -/
theorem read_indented (scan : Scan) (indent : Blanks) {c : Char} (plain : Text.isBlank c = false)
    (rest : List Char) : scan.read (indent.text ++ c :: rest) = scan.readTrimmed (c :: rest) := by
  rw [Scan.read, trimStart_indented, trimStart_plain plain]

theorem read_filler (scan : Scan) (filler : Filler) : scan.read filler.line = scan := by
  cases filler with
  | blank blanks =>
    unfold Scan.read Filler.line
    rw [trimStart_blanks]
    rfl
  | comment indent content => exact read_indented scan indent (by decide) content

theorem foldl_read_fillers (scan : Scan) (fillers : List Filler) :
    (fillers.map Filler.line).foldl Scan.read scan = scan := by
  induction fillers with
  | nil => rfl
  | cons filler rest ih => rw [List.map_cons, List.foldl_cons, read_filler, ih]

theorem read_outside (found : List ActionIcon) {line : List Char} (free : ¬ Leads "ACTION" line) :
    Scan.read ⟨found, none⟩ line = ⟨found, none⟩ := by
  have starts : ¬ (keywordValue? "ACTION" (Text.trimStart line)).isSome :=
    fun some => free (leads_of_keywordValue? some)
  unfold Scan.read Scan.readTrimmed
  rw [if_neg starts]
  split <;> rfl

/-! ### How a block is read -/

theorem Braceless.append {one other : List Char} (first : Braceless one)
    (second : Braceless other) : Braceless (one ++ other) := by
  simp [Braceless, first.1, first.2, second.1, second.2]

theorem Blanks.braceless (blanks : Blanks) : Braceless blanks.text :=
  ⟨fun member => absurd (blanks.blank _ member) (by decide),
    fun member => absurd (blanks.blank _ member) (by decide)⟩

theorem Braceless.trimStart {line : List Char} (braceless : Braceless line) :
    Braceless (Text.trimStart line) := by
  have within : Text.trimStart line ⊆ line := (List.dropWhile_suffix Text.isBlank).subset
  exact ⟨fun member => braceless.1 (within member), fun member => braceless.2 (within member)⟩

theorem countBraces_braceless (block : IconCache.Block) {line : List Char}
    (braceless : Braceless line) : block.countBraces line = block := by
  simp [IconCache.Block.countBraces, List.count_eq_zero.mpr braceless.1,
    List.count_eq_zero.mpr braceless.2]

/-- A line without braces sets a field or nothing. -/
theorem readInside_braceless (scan : Scan) (block : IconCache.Block) {line : List Char}
    (braceless : Braceless line) :
    scan.readInside block line =
      { scan with
        block := some ((field? line).elim block fun set => block.set set.1 set.2) } := by
  have read : block.read line = (field? line).elim block fun set => block.set set.1 set.2 := by
    unfold IconCache.Block.read
    rw [countBraces_braceless block braceless]
    cases field? line <;> rfl
  simp [Scan.readInside, IconCache.Block.closedBy, braceless.2, read]

/-- A line of an open block without braces, if it is neither empty nor a comment. -/
theorem read_braceless (found : List ActionIcon) (block : IconCache.Block) {line : List Char}
    (braceless : Braceless line) (filled : Text.trimStart line ≠ [])
    (uncommented : (Text.trimStart line).head? ≠ some '#') :
    Scan.read ⟨found, some block⟩ line =
      ⟨found,
        some ((field? (Text.trimStart line)).elim block fun set => block.set set.1 set.2)⟩ := by
  rw [← readInside_braceless ⟨found, some block⟩ block braceless.trimStart]
  simp [Scan.read, Scan.readTrimmed, filled, uncommented]

theorem read_setting (found : List ActionIcon) (block : IconCache.Block) (setting : Setting) :
    Scan.read ⟨found, some block⟩ setting.line =
      ⟨found, some (block.set setting.field setting.value.text)⟩ := by
  have letters : Braceless setting.field.keyword.toList := by
    cases setting.field <;> decide
  have braceless : Braceless setting.line :=
    setting.indent.braceless.append
      (letters.append (setting.gap.braceless.append setting.value.braceless))
  have trimmed : Text.trimStart setting.line =
      setting.field.keyword.toList ++ (setting.gap.text ++ setting.value.text) := by
    unfold Setting.line
    rw [trimStart_indented]
    cases setting.field <;> rfl
  have sets := field?_keyword setting.field setting.parted setting.value.text
  rw [trimStart_value, ← trimmed] at sets
  have plain : Text.trimStart setting.line ≠ [] ∧
      (Text.trimStart setting.line).head? ≠ some '#' := by
    rw [trimmed]
    cases setting.field <;> simp [Field.keyword]
  rw [read_braceless found block braceless plain.1 plain.2, sets]
  rfl

/-- **A line of a body is read as what it sets**, while the block is open. -/
theorem read_body (found : List ActionIcon) (block : IconCache.Block) (line : BodyLine) :
    Scan.read ⟨found, some block⟩ line.line = ⟨found, some (line.apply block)⟩ := by
  cases line with
  | filler silent => exact read_filler _ silent
  | setting sets => exact read_setting found block sets
  | other line free =>
    show Scan.read _ line.text = ⟨found, some block⟩
    by_cases filled : Text.trimStart line.text = []
    · unfold Scan.read
      rw [filled]
      rfl
    · by_cases comment : (Text.trimStart line.text).head? = some '#'
      · simp [Scan.read, Scan.readTrimmed, comment]
      · rw [read_braceless found block line.braceless filled comment,
          field?_eq_none_of_free free, Option.elim_none]

theorem foldl_read_body (found : List ActionIcon) (block : IconCache.Block)
    (body : List BodyLine) :
    (body.map BodyLine.line).foldl Scan.read ⟨found, some block⟩ =
      ⟨found, some (body.foldl BodyLine.apply block)⟩ := by
  induction body generalizing block with
  | nil => rfl
  | cons line rest ih => rw [List.map_cons, List.foldl_cons, read_body, ih, List.foldl_cons]

/-- The opening brace, wherever it stands on its line. -/
theorem readInside_opening (scan : Scan) {before after : List Char}
    (unset : field? (before ++ '\x7b' :: after) = none) (first : Braceless before)
    (second : Braceless after) :
    scan.readInside {} (before ++ '\x7b' :: after) =
      { scan with block := some { depth := 1 } } := by
  have unclosed : '\x7d' ∉ before ++ '\x7b' :: after := by
    simp [first.2, second.2]
  have opened : (before ++ '\x7b' :: after).count '\x7b' = 1 := by
    simp [List.count_eq_zero.mpr first.1, List.count_eq_zero.mpr second.1]
  have read : IconCache.Block.read {} (before ++ '\x7b' :: after) = { depth := 1 } := by
    simp [IconCache.Block.read, IconCache.Block.countBraces, unset, opened,
      List.count_eq_zero.mpr unclosed]
  simp [Scan.readInside, IconCache.Block.closedBy, unclosed, read]

theorem field?_action (rest : List Char) : field? ("ACTION".toList ++ rest) = none :=
  rfl

/-- The line that starts a block, if no block is open. -/
theorem read_header (found : List ActionIcon) (block : Block) (rest : List Char) :
    Scan.read ⟨found, none⟩ (block.header ++ rest) =
      Scan.readInside ⟨found, none⟩ {}
        ("ACTION".toList ++ (block.gap.text ++ block.name.text ++ rest)) := by
  have trimmed : Text.trimStart (block.header ++ rest) =
      "ACTION".toList ++ (block.gap.text ++ (block.name.text ++ rest)) := by
    simp only [Block.header, List.append_assoc]
    rw [trimStart_indented]
    rfl
  have starts := keywordValue?_gap "ACTION" block.parted (block.name.text ++ rest)
  unfold Scan.read Scan.readTrimmed
  rw [trimmed, List.append_assoc, starts]
  simp

/-- **A block is open after its opening brace**, and nothing has been set. -/
theorem foldl_read_start (found : List ActionIcon) (block : Block) :
    block.start.foldl Scan.read ⟨found, none⟩ = ⟨found, some { depth := 1 }⟩ := by
  have name : Braceless ("ACTION".toList ++ (block.gap.text ++ block.name.text)) :=
    Braceless.append (by decide) (block.gap.braceless.append block.name.braceless)
  unfold Block.start
  cases block.opening with
  | sameLine after =>
    rw [List.foldl_cons, List.foldl_nil, read_header, ← List.append_assoc]
    refine readInside_opening _ ?_ name after.braceless
    rw [List.append_assoc, field?_action]
  | ownLine between indent trail =>
    have header : Scan.read ⟨found, none⟩ block.header = ⟨found, some {}⟩ := by
      have whole := read_header found block []
      rw [List.append_nil, List.append_nil, readInside_braceless _ _ name, field?_action] at whole
      exact whole
    rw [List.foldl_cons, header, List.foldl_append, foldl_read_fillers, List.foldl_cons,
      List.foldl_nil, read_indented _ indent (by decide)]
    exact @readInside_opening _ [] trail.text rfl (by decide) trail.braceless

/-- **A block ends at its closing brace**. -/
theorem read_closing (found : List ActionIcon) (written : Block) {block : IconCache.Block}
    (opened : block.depth = 1) :
    Scan.read ⟨found, some block⟩ written.closing =
      ⟨block.usable?.toList ++ found, none⟩ := by
  obtain ⟨unopened, unclosed⟩ := written.closingTrail.braceless
  have read : block.read ('\x7d' :: written.closingTrail.text) = { block with depth := 0 } := by
    have nothing : field? ('\x7d' :: written.closingTrail.text) = none := rfl
    simp [IconCache.Block.read, IconCache.Block.countBraces, nothing, opened,
      List.count_eq_zero.mpr unopened, List.count_eq_zero.mpr unclosed]
  have open_ : Scan.read ⟨found, some block⟩ written.closing =
      Scan.readInside ⟨found, some block⟩ block ('\x7d' :: written.closingTrail.text) := by
    unfold Block.closing
    rw [read_indented _ _ (by decide)]
    rfl
  have same : ({ block with depth := 0 } : IconCache.Block).usable? = block.usable? := rfl
  simp [open_, Scan.readInside, IconCache.Block.closedBy, read, same]

/-! ### What a file comes to -/

/-- A block that holds what the last lines set is used as it is written. -/
theorem usable?_eq {block : IconCache.Block} {written : Block}
    (holds : ∀ field, held block field = (written.last? field).bind (kept · field)) :
    block.usable? = written.action? := by
  have type : block.type = written.word? .type := holds .type
  have icon : block.icon = written.word? .icon := holds .icon
  have instanceIcon : block.instanceIcon = written.word? .instanceIcon := holds .instanceIcon
  have commandLine : block.commandLine = (written.last? .commandLine).map trimLineEnd := by
    rw [Option.map_eq_bind]
    exact holds .commandLine
  have runs : block.runsCommand = (written.word? .type).all (· == "COMMAND".toList) := by
    unfold IconCache.Block.runsCommand
    rw [type]
    cases written.word? .type <;> rfl
  unfold IconCache.Block.usable? Block.action?
  rw [icon, instanceIcon, commandLine, runs]
  cases written.last? .commandLine <;> rfl

/-- **A block is read as its action.** -/
theorem foldl_read_block (found : List ActionIcon) (block : Block) :
    block.lines.foldl Scan.read ⟨found, none⟩ = ⟨block.action?.toList ++ found, none⟩ := by
  have opened : (block.body.foldl BodyLine.apply { depth := 1 }).depth = 1 :=
    depth_foldl_apply { depth := 1 } block.body
  have holds : ∀ field, held (block.body.foldl BodyLine.apply { depth := 1 }) field =
      (block.last? field).bind (kept · field) := by
    intro field
    rw [held_foldl_apply]
    unfold Block.last?
    cases (block.body.filterMap (BodyLine.value? field)).getLast? with
    | none => cases field <;> rfl
    | some value => rfl
  rw [Block.lines, List.foldl_append, foldl_read_start, List.foldl_append, foldl_read_body,
    List.foldl_cons, List.foldl_nil, read_closing found block opened, usable?_eq holds]

theorem foldl_read_item (found : List ActionIcon) (item : Item) :
    item.lines.foldl Scan.read ⟨found, none⟩ = ⟨item.action?.toList ++ found, none⟩ := by
  cases item with
  | filler silent => exact read_filler ⟨found, none⟩ silent
  | outside line free => exact read_outside found free
  | block whole => exact foldl_read_block found whole

theorem foldl_read_items (found : List ActionIcon) (items : List Item) :
    (items.flatMap Item.lines).foldl Scan.read ⟨found, none⟩ =
      ⟨(items.filterMap Item.action?).reverse ++ found, none⟩ := by
  induction items generalizing found with
  | nil => rfl
  | cons item rest ih =>
    rw [List.flatMap_cons, List.foldl_append, foldl_read_item, ih]
    cases action : item.action? with
    | none => simp [action]
    | some one => simp [action]

end Written

open Written in
/-- **A file is read as the actions of its blocks**, in order, and nothing else: whatever lines and
comments stand between, and whichever line ends its lines have. -/
theorem actions_of_consists {items : List Item} {text : List Char}
    (consists : Text.Consists (items.flatMap Item.lines) text) :
    actions text = items.filterMap Item.action? := by
  rw [actions, Text.lines_of_consists consists, foldl_read_items, List.append_nil,
    List.reverse_reverse]

/-- A block whose icon is set twice, with a comment that holds a brace. -/
def Written.terminal : Written.Block :=
  let none := Blanks.spaces 0
  let one := Blanks.spaces 1
  { indent := none
    gap := one
    parted := List.cons_ne_nil _ _
    name := ⟨"Xterm".toList, by decide⟩
    opening := .ownLine [] none none
    body :=
      [.setting ⟨one, .icon, one, ⟨"Nope".toList, by decide⟩, List.cons_ne_nil _ _,
          by decide⟩,
        .filler (.comment none " \x7d".toList),
        .setting ⟨one, .icon, one, ⟨"Dtterm".toList, by decide⟩, List.cons_ne_nil _ _,
          by decide⟩,
        .setting ⟨one, .commandLine, one, ⟨"/usr/bin/xterm -ls %Args%".toList, by decide⟩,
          List.cons_ne_nil _ _, by decide⟩]
    closingIndent := none
    closingTrail := none }

open Written in
/-- The block between comments; some of the lines end with a carriage return. -/
theorem actions_of_consists_terminal :
    let comment : Item := .filler (.comment (.spaces 0) " ACTION \x7b".toList)
    let text := ("# ACTION \x7b\r\nACTION Xterm\r\n\x7b\n ICON Nope\r\n# \x7d\n ICON Dtterm\n" ++
      " EXEC_STRING /usr/bin/xterm -ls %Args%\r\n\x7d\n# ACTION \x7b").toList
    Text.Consists ([comment, .block terminal, comment].flatMap Item.lines) text ∧
      actions text = [⟨"/usr/bin/xterm", "Dtterm"⟩] := by
  intro comment text
  have consists : Text.Consists ([comment, .block terminal, comment].flatMap Item.lines) text :=
    (Text.lines_eq_iff _ _).mp (by decide +kernel)
  refine ⟨consists, ?_⟩
  rw [actions_of_consists consists]
  decide +kernel

end LaunchSupervisor.IconCache
