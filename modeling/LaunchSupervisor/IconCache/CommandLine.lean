import LaunchSupervisor.CommandLine
import LaunchSupervisor.Diagnostics

/-!
**The command line of the cache tool.** Options come before the task, and after the task only its
own operands, in any number the task asks for. An operand that looks like an option must follow a
`--`.

* `length_operands`: a task gets as many operands as it takes.
-/

namespace LaunchSupervisor.IconCache

/-- What the cache tool is to do. -/
inductive Task where
  /-- To record the children that an action started, one on each line. -/
  | update (action report : String)
  /-- To show the icon of a command. -/
  | lookup (command : String)
  /-- To show all mappings. -/
  | list
deriving DecidableEq

/-- What a command line asks the cache tool for. -/
structure ToolRequest where
  /-- How much the diagnostic log holds, if the command line says so. -/
  level : Option LogLevel
  task : Task
deriving DecidableEq

/-- A command line that brings no task. -/
inductive ToolStop where
  /-- It is not understood. -/
  | misuse
  | help
  | version
deriving DecidableEq

namespace ToolRequest

/-- The sorts of argument, told by how an argument starts. -/
inductive Shape where
  /-- Two hyphens alone, after which everything is an operand. -/
  | escape
  /-- A long option, with the value that stands behind its equals sign. -/
  | long (name : List UInt8) (value : Option (List UInt8))
  /-- A row of options of one letter. -/
  | short (letters : List UInt8)
  | operand
deriving DecidableEq

/-- The hyphen. -/
def hyphen : UInt8 := 45

/-- The equals sign. -/
def equals : UInt8 := 61

/-- A long option split at its first equals sign. -/
def longOption (text : List UInt8) : Shape :=
  match text.dropWhile (· != equals) with
  | [] => .long text none
  | _ :: value => .long (text.takeWhile (· != equals)) (some value)

/-- The sort of an argument; a hyphen alone is an operand. -/
def shape (argument : Argument) : Shape :=
  if argument.take 2 = [hyphen, hyphen] then
    if argument.drop 2 = [] then .escape else longOption (argument.drop 2)
  else if argument.head? = some hyphen ∧ argument.tail ≠ [] then .short argument.tail
  else .operand

/-- The letter of help. -/
def helpLetter : UInt8 := 104

/-- The letter of the version. -/
def versionLetter : UInt8 := 86

/-! ### The operands of a task -/

/-- Reads the operands of a task that takes so many more; `escaped` once a `--` was seen. -/
def operandsFrom (escaped : Bool) (taken : List String) (missing : Nat) :
    List Argument → Except ToolStop (List String)
  | [] => if missing = 0 then .ok taken else .error .misuse
  | argument :: rest =>
    let sort := if escaped then .operand else shape argument
    match sort with
    | .escape => operandsFrom true taken missing rest
    | .long name value =>
      .error (if name = Utf8.bytes "help" ∧ value = none then .help else .misuse)
    | .short letters => .error (if letters.head? = some helpLetter then .help else .misuse)
    | .operand =>
      match missing, Utf8.string? argument with
      | more + 1, some text => operandsFrom escaped (taken ++ [text]) more rest
      | _, _ => .error .misuse

/-- The operands of a task that takes so many. -/
def operands (count : Nat) (arguments : List Argument) : Except ToolStop (List String) :=
  operandsFrom false [] count arguments

/-- A task by its name and its operands. -/
def task? (name : Argument) (arguments : List Argument) : Except ToolStop Task :=
  if name = Utf8.bytes "update" then
    match operands 2 arguments with
    | .ok [action, report] => .ok (.update action report)
    | .ok _ => .error .misuse
    | .error stop => .error stop
  else if name = Utf8.bytes "lookup" then
    match operands 1 arguments with
    | .ok [command] => .ok (.lookup command)
    | .ok _ => .error .misuse
    | .error stop => .error stop
  else if name = Utf8.bytes "list" then
    match operands 0 arguments with
    | .ok _ => .ok .list
    | .error stop => .error stop
  else .error .misuse

/-- Whether an argument names a task, or the help on one. -/
def isTopic (argument : Argument) : Bool :=
  ["update", "lookup", "list", "help"].any fun name => argument == Utf8.bytes name

/-- What a request for help with the given topics brings. -/
def helpOn : List Argument → ToolStop
  | [] => .help
  | [topic] => if isTopic topic then .help else .misuse
  | _ => .misuse

/-! ### The options before the task -/

/-- The level that the values of the level option give; it may be given once. -/
def level? : List Argument → Except ToolStop (Option LogLevel)
  | [] => .ok none
  | [value] =>
    match LogLevel.ofName? value with
    | some level => .ok (some level)
    | none => .error .misuse
  | _ => .error .misuse

/-- What stops the reading, if the options before it are in order. -/
def stopAfter (levels : List Argument) (stop : ToolStop) : ToolStop :=
  match level? levels with
  | .ok _ => stop
  | .error fault => fault

/-- Reads a task, and only then the values of the level option before it. -/
def withTask (levels : List Argument) (name : Argument) (arguments : List Argument) :
    Except ToolStop ToolRequest :=
  match task? name arguments, level? levels with
  | .ok task, .ok level => .ok { level, task }
  | .error stop, _ => .error stop
  | _, .error stop => .error stop

/-- Reads the arguments that follow options with the given values of the level option. -/
def parseFrom (levels : List Argument) : List Argument → Except ToolStop ToolRequest
  | [] => .error .misuse
  | argument :: rest =>
    match shape argument with
    | .escape => .error .misuse
    | .short letters =>
      match letters.head? with
      | some letter =>
        if letter = helpLetter then .error (stopAfter levels .help)
        else if letter = versionLetter then .error (stopAfter levels .version)
        else .error .misuse
      | none => .error .misuse
    | .long name value =>
      if name = Utf8.bytes "log-level" then
        match value, rest with
        | some value, rest =>
          match level? (levels ++ [value]) with
          | .ok _ => parseFrom (levels ++ [value]) rest
          | .error stop => .error stop
        | none, [] => .error .misuse
        | none, value :: rest =>
          match shape value, level? levels with
          | .operand, .ok _ => parseFrom (levels ++ [value]) rest
          | _, _ => .error .misuse
      else if name = Utf8.bytes "help" ∧ value = none then .error (stopAfter levels .help)
      else if name = Utf8.bytes "version" ∧ value = none then .error (stopAfter levels .version)
      else .error .misuse
    | .operand =>
      if argument = Utf8.bytes "help" then .error (helpOn rest)
      else withTask levels argument rest

/-- Reads a command line. -/
def parse (arguments : List Argument) : Except ToolStop ToolRequest :=
  parseFrom [] arguments

/-! ### Small facts -/

theorem length_operandsFrom {escaped : Bool} {taken texts : List String} {missing : Nat}
    {arguments : List Argument} (read : operandsFrom escaped taken missing arguments = .ok texts) :
    texts.length = taken.length + missing := by
  fun_induction operandsFrom escaped taken missing arguments with
  | case1 escaped taken => cases read; rfl
  | case2 escaped taken missing lacking => cases read
  | case3 escaped taken missing argument rest sort escape ih => exact ih read
  | case4 => cases read
  | case5 => cases read
  | case6 escaped taken argument rest sort operand more text decoded ih =>
    rw [ih read, List.length_append, List.length_singleton]
    omega
  | case7 => cases read

theorem length_operands {count : Nat} {arguments : List Argument} {texts : List String}
    (read : operands count arguments = .ok texts) : texts.length = count := by
  simpa using length_operandsFrom read

end ToolRequest

end LaunchSupervisor.IconCache
