import LaunchSupervisor.Text.Number
import LaunchSupervisor.Text.Search
import LaunchSupervisor.Text.Utf8
import LaunchSupervisor.Trial.Deed
import LaunchSupervisor.Trial.Shell.Script

/-!
**Running a script of a shell.** A run does not touch anything: it yields the deeds of the script
and their times. Commands take no time of their own but for a sleep; what runs in the background
starts where the rest goes on. -/

namespace LaunchSupervisor.Trial.Shell

/-- The supervisor's process id. -/
def supervisorPid : Nat := 4241

/-- The process id of the command. -/
def commandPid : Nat := 4242

/-! ### What is printed -/

/-- The character of a one-letter escape. -/
def escape? : Char → Option Char
  | 'n' => some '\n'
  | 't' => some '\t'
  | '\\' => some '\\'
  | _ => none

/-- What a format stands for, with the arguments it asks for filled in. -/
def printed (arguments : List (List Char)) : List Char → List Char
  | [] => []
  | '%' :: 's' :: rest => arguments.headD [] ++ printed arguments.tail rest
  | '%' :: '%' :: rest => '%' :: printed arguments rest
  | '\\' :: c :: rest =>
    ((escape? c).map ([·])).getD ['\\', c] ++ printed arguments rest
  | c :: rest => c :: printed arguments rest

/-- Where something is written to. -/
inductive Stream where
  | output
  | complaint
  | file (path : Path)
  | nowhere
deriving DecidableEq

/-! ### Runs -/

/-- A run under way. -/
structure State where
  /-- What the shell was called by. -/
  program : List Char
  /-- What the script is called. -/
  name : List Char
  arguments : List (List Char)
  /-- The variables that were set, the newest first. -/
  assigned : List (List Char × List Char) := []
  output : Stream := .output
  complaint : Stream := .complaint
  now : Nat := 0
  /-- The process that runs the script. -/
  process : Nat := commandPid
  /-- The id of the next process. -/
  nextProcess : Nat := commandPid + 1
  /-- How the last command went, zero for well. -/
  status : Nat := 0
  exited : Bool := false
  /-- The deeds so far. -/
  deeds : List Timed := []
  /-- When the last of the processes in the background ends. -/
  latest : Nat := 0

namespace State

/-! ### Words -/

/-- A number as text. -/
def digits (n : Nat) : List Char :=
  (toString n).toList

/-- The value of a parameter. -/
def value (state : State) (name : List Char) : List Char :=
  match name with
  | ['#'] => digits state.arguments.length
  | ['?'] => digits state.status
  | ['$'] => digits commandPid
  | ['P', 'P', 'I', 'D'] => digits supervisorPid
  | _ =>
    match Text.natural? name with
    | some 0 => state.name
    | some (n + 1) => state.arguments.getD n []
    | none => (state.assigned.lookup name).getD []

/-- The text of a word. -/
def wordText (state : State) (word : Word) : List Char :=
  word.pieces.flatMap fun
    | .text chars => chars
    | .parameter name => state.value name

/-- The texts of words; one that comes to nothing counts only if it was quoted. -/
def fields (state : State) (words : List Word) : List (List Char) :=
  (words.filter fun word => word.quoted || state.wordText word != []).map state.wordText

/-- The variable that a word sets, and the word's text behind the equals sign. -/
def assignment? (word : Word) : Option (List Char × Word) :=
  match word.pieces with
  | .text chars :: rest =>
    (Text.splitFirst '=' chars).bind fun (name, after) =>
      if name ≠ [] ∧ name.all Lexer.isNameChar ∧ (name.head?.any Char.isDigit) = false then
        some (name, { word with pieces := .text after :: rest })
      else none
  | _ => none

/-- Sets a variable. -/
def assign (state : State) (entry : List Char × Word) : State :=
  { state with assigned := (entry.1, state.wordText entry.2) :: state.assigned }

/-! ### Deeds -/

/-- Does something now. -/
def perform (state : State) (deed : Deed) : State :=
  { state with deeds := state.deeds ++ [⟨state.now, deed⟩] }

/-- Writes to a stream. -/
def write (state : State) (stream : Stream) (text : List Char) : State :=
  match stream with
  | .output => state.perform (.output (Utf8.encode text))
  | .complaint => state.perform (.complaint (Utf8.encode text))
  | .file path => state.perform (.extend path (Utf8.encode text))
  | .nowhere => state

/-- The file into which everything can be written without a trace. -/
def nullFile : List Char := "/dev/null".toList

/-- Sets the stream of a descriptor. -/
def withStream (state : State) (descriptor : Nat) (stream : Stream) : State :=
  match descriptor with
  | 1 => { state with output := stream }
  | 2 => { state with complaint := stream }
  | _ => state

/-- Applies a redirection. -/
def redirect (state : State) (redirection : Redirection) : State :=
  let text := state.wordText redirection.word
  let path : Path := .ofText text
  if redirection.target = .like then
    state.withStream redirection.descriptor
      (if text = ['2'] then state.complaint else state.output)
  else if text = nullFile then state.withStream redirection.descriptor .nowhere
  else
    let opened := if redirection.target = .anew then state.perform (.make path) else state
    opened.withStream redirection.descriptor (.file path)

/-- The state with its streams, and nothing else, as in another. -/
def withStreamsOf (state other : State) : State :=
  { state with output := other.output, complaint := other.complaint }

/-! ### Processes -/

/-- Goes on in a process of its own. -/
def fork (state : State) : State :=
  let forked := state.perform (.become state.nextProcess (Utf8.encode state.program))
  { forked with process := state.nextProcess, nextProcess := state.nextProcess + 1 }

/-- Ends a process of its own. -/
def vanish (state : State) : State :=
  state.perform (.vanish state.process)

/-- Turns the process into another program. -/
def become (state : State) (program : List Char) : State :=
  state.perform (.become state.process (Utf8.encode program))

/-! ### Utilities -/

/-- The milliseconds of a text in seconds. -/
def milliseconds (text : List Char) : Nat :=
  let whole := text.takeWhile Char.isDigit
  let part := ((text.dropWhile Char.isDigit).drop 1).takeWhile Char.isDigit
  Text.digitsValue 0 whole * 1000 + Text.digitsValue 0 ((part ++ ['0', '0', '0']).take 3)

/-- Runs the sleep utility, in the process itself if that has nothing else to do. -/
def sleep (state : State) (duration : Nat) (last : Bool) : State :=
  let name := "sleep".toList
  if last then { state.become name with now := state.now + duration }
  else
    let slept := { state.fork.become name with now := state.now + duration }
    { slept.vanish with process := state.process }

/-- The signal of a name or a number. -/
def signal? (text : List Char) : Option Signal :=
  Signal.all.find? fun signal => signal.name.toList = text ∨ digits signal.number = text

/-- Sends a signal; the script itself is ended by any. -/
def kill (state : State) (signal : Option Signal) (target : List Char) : State :=
  if target = digits supervisorPid then (signal.map fun s => state.perform (.signal s)).getD state
  else if target = digits commandPid then { state with exited := true }
  else state

/-- Ends a command with a status. -/
def ended (state : State) (status : Nat) : State :=
  { state with status }

/-- Runs a utility with its arguments; `last` tells whether nothing follows in its process. -/
def utility (state : State) (last : Bool) (name : List Char) (arguments : List (List Char)) :
    State :=
  match String.ofList name, arguments with
  | "true", _ => state.ended 0
  | "false", _ => state.ended 1
  | "echo", words => (state.write state.output ([' '].intercalate words ++ ['\n'])).ended 0
  | "printf", format :: arguments =>
    (state.write state.output (printed arguments format)).ended 0
  | "sleep", [duration] => (state.sleep (milliseconds duration) last).ended 0
  | "kill", ('-' :: name) :: targets => (targets.foldl (·.kill (signal? name)) state).ended 0
  | "kill", targets => (targets.foldl (·.kill (some .terminate)) state).ended 0
  | "exit", words =>
    { state with exited := true, status := (words.head?.bind Text.natural?).getD state.status }
  | "wait", _ => ended { state with now := max state.now state.latest } 0
  | _, _ =>
    let complaint := state.name ++ ": 1: ".toList ++ name ++ ": not found\n".toList
    (state.write state.complaint complaint).ended 127

/-! ### Programs -/

/-- Runs a simple command; `last` tells whether nothing follows in its process. -/
def runSimple (state : State) (last : Bool) (command : Simple) : State :=
  let (set, words) := command.words.span fun word => (assignment? word).isSome
  let opened := command.redirections.foldl redirect state
  match opened.fields words with
  | [] => ended (((set.filterMap assignment?).foldl assign opened).withStreamsOf state) 0
  | name :: arguments => (opened.utility last name arguments).withStreamsOf state

/-- Goes on beside something that was put in the background. -/
def aside (state background : State) : State :=
  { state with
    deeds := background.deeds
    latest := max state.latest (max background.latest background.now)
    nextProcess := background.nextProcess
    status := 0 }

/-- Goes on after a group, which leaves variables alone and cannot make the script exit. -/
def behind (state group : State) : State :=
  { state with
    deeds := group.deeds, latest := group.latest, now := group.now
    nextProcess := group.nextProcess, status := group.status }

/-- Whether the command after a join is left out. -/
def skips (join : Join) (status : Nat) : Bool :=
  match join with
  | .ifWell => status != 0
  | .ifIll => status == 0
  | .always => false
  | .meanwhile => false

/-- Runs a program; its first command is left out on demand, and `last` tells whether nothing
follows in its process. -/
def run (last : Bool) : Program → Bool → State → State
  | .done, _, state => state
  | .simple command join rest, skip, state =>
    if state.exited then state
    else
      let next :=
        if skip then state
        else if join = .meanwhile then state.aside (state.fork.runSimple true command).vanish
        else state.runSimple (last && rest == .done) command
      run last rest (skips join next.status) next
  | .group inner redirections join rest, skip, state =>
    if state.exited then state
    else
      let own := last && rest == .done && join != .meanwhile
      let opened := redirections.foldl redirect (if own then state else state.fork)
      let group := run true inner false opened
      let next :=
        if skip then state
        else if own then state.behind group
        else if join = .meanwhile then state.aside group.vanish
        else state.behind group.vanish
      run last rest (skips join next.status) next

end State

/-- The state after a run of a shell called by `program`. -/
def final (program name text : List Char) (arguments : List (List Char)) : State :=
  let state : State := { program, name, arguments }
  match program? text with
  | some program => State.run true program false state
  | none => (state.write .complaint (name ++ ": 1: Syntax error\n".toList)).ended 2

end LaunchSupervisor.Trial.Shell
