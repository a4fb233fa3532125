import LaunchSupervisor.IconCache.Command
import LaunchSupervisor.Text.Lines

/-!
**Action files.** A file describes actions in blocks of lines. Of a block only four fields matter:
its type, the command line it runs and its two icons, the last occurrence of each.

* `usable?_eq_some_iff`: which blocks give an action.
-/

namespace LaunchSupervisor.IconCache

/-- A program and the icon of the action that runs it. -/
structure ActionIcon where
  command : String
  icon : String
deriving DecidableEq

/-! ### Fields -/

/-- A field of a block. -/
inductive Field where
  | type
  | commandLine
  | icon
  | instanceIcon
deriving DecidableEq

/-- What follows a keyword and the blanks after it, if a line starts with them. -/
def keywordValue? (keyword : String) (line : List Char) : Option (List Char) :=
  if keyword.toList.isPrefixOf line then
    match line.drop keyword.toList.length with
    | c :: rest => if Text.isBlank c then some (Text.trimStart (c :: rest)) else none
    | [] => none
  else none

/-- The word that starts a field. -/
def Field.keyword : Field → String
  | .type => "TYPE"
  | .commandLine => "EXEC_STRING"
  | .icon => "ICON"
  | .instanceIcon => "INSTANCE_ICON"

/-- All fields. -/
def Field.all : List Field := [.type, .commandLine, .icon, .instanceIcon]

/-- The field a line sets, with its value. -/
def field? (line : List Char) : Option (Field × List Char) :=
  Field.all.findSome? fun field =>
    (keywordValue? field.keyword line).map fun value => (field, value)

/-- A value without the ends of lines it ends with. -/
def trimLineEnd (value : List Char) : List Char :=
  (value.reverse.dropWhile fun c => c == '\n' || c == '\r').reverse

/-! ### Blocks -/

/-- A block as far as it has been read. -/
structure Block where
  type : Option (List Char) := none
  commandLine : Option (List Char) := none
  icon : Option (List Char) := none
  instanceIcon : Option (List Char) := none
  /-- Opening braces less closing braces. -/
  depth : Int := 0
deriving DecidableEq

namespace Block

/-- The block with a field set. -/
def set (block : Block) : Field → List Char → Block
  | .type, value => { block with type := Text.firstWord value }
  | .commandLine, value => { block with commandLine := some (trimLineEnd value) }
  | .icon, value => { block with icon := Text.firstWord value }
  | .instanceIcon, value => { block with instanceIcon := Text.firstWord value }

/-- The block with the braces of a line counted. -/
def countBraces (block : Block) (line : List Char) : Block :=
  { block with depth := block.depth + line.count '\x7b' - line.count '\x7d' }

/-- The block after one more line. -/
def read (block : Block) (line : List Char) : Block :=
  let counted := block.countBraces line
  match field? line with
  | some (field, value) => counted.set field value
  | none => counted

/-- Whether a line that has been read closes the block. -/
def closedBy (block : Block) (line : List Char) : Bool :=
  decide (block.depth ≤ 0) && line.contains '\x7d'

/-- Whether a block runs a command: its type says so, or it has none. -/
def runsCommand (block : Block) : Bool :=
  match block.type with
  | none => true
  | some type => type == "COMMAND".toList

/-- The action of a finished block that runs a command with an icon. -/
def usable? (block : Block) : Option ActionIcon := do
  let icon ← block.icon.or block.instanceIcon
  let line ← block.commandLine
  let program ← programText? line
  if block.runsCommand then some ⟨.ofList program, .ofList icon⟩ else none

theorem usable?_eq_some_iff (block : Block) (action : ActionIcon) :
    block.usable? = some action ↔
      ∃ icon line program, block.icon.or block.instanceIcon = some icon ∧
        block.commandLine = some line ∧ programText? line = some program ∧
        block.runsCommand ∧ ⟨.ofList program, .ofList icon⟩ = action := by
  simp only [usable?, Option.bind_eq_bind, Option.bind_eq_some_iff, Option.ite_none_right_eq_some,
    Option.some.injEq]
  constructor
  · rintro ⟨icon, hasIcon, line, hasLine, program, derived, runs, same⟩
    exact ⟨icon, line, program, hasIcon, hasLine, derived, runs, same⟩
  · rintro ⟨icon, line, program, hasIcon, hasLine, derived, runs, same⟩
    exact ⟨icon, hasIcon, line, hasLine, program, derived, runs, same⟩

end Block

/-! ### Files -/

/-- The actions found so far, last first, and the block that is open. -/
structure Scan where
  found : List ActionIcon := []
  block : Option Block := none

namespace Scan

/-- A line of an open block. -/
def readInside (scan : Scan) (block : Block) (line : List Char) : Scan :=
  let next := block.read line
  if next.closedBy line then ⟨next.usable?.toList ++ scan.found, none⟩
  else { scan with block := some next }

/-- A line without the blanks it starts with. -/
def readTrimmed (scan : Scan) (line : List Char) : Scan :=
  if line.isEmpty || line.head? == some '#' then scan
  else
    match scan.block with
    | some block => scan.readInside block line
    | none => if (keywordValue? "ACTION" line).isSome then scan.readInside {} line else scan

/-- One line of a file. -/
def read (scan : Scan) (line : List Char) : Scan :=
  scan.readTrimmed (Text.trimStart line)

end Scan

/-- The actions that a text describes, in order. -/
def actions (text : List Char) : List ActionIcon :=
  ((Text.lines text).foldl Scan.read {}).found.reverse

end LaunchSupervisor.IconCache
