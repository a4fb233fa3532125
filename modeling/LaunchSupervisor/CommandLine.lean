import LaunchSupervisor.Caller
import LaunchSupervisor.Path
import LaunchSupervisor.Policy

/-!
**The command line.** Options come first, each a flag with a value; the first argument that is no
flag starts the command, which is taken as it stands.

* `parseFrom_option`, `parseFrom_command`: an option is taken in, anything else starts the command.
-/

namespace LaunchSupervisor

/-- An argument, any bytes. -/
abbrev Argument := List UInt8

/-- What a command line asks for. -/
structure Request where
  policy : OpenPolicy := .standard
  /-- The launcher, unless none was given or its token was malformed. -/
  caller : Option Caller := none
  /-- Files to remove if nobody else will. -/
  tempFiles : List Path := []
  /-- The command with its arguments; none if the options were all there was. -/
  command : Option (List Argument) := none
deriving DecidableEq

/-- A command line that asks for nothing that can be done. -/
inductive UsageError where
  /-- Help was asked for. -/
  | help
  /-- An option's value is missing. -/
  | missingValue
deriving DecidableEq

namespace UsageError

/-- The code the supervisor exits with. -/
def exitCode : UsageError → Int
  | .help => 0
  | .missingValue => 1

/-- How the error is reported. -/
def message (error : UsageError) : String :=
  "usage error (exit code " ++ toString error.exitCode ++ ")"

end UsageError

namespace Request

/-- The flag before the open policy. -/
def openFlag : Argument := Utf8.bytes "-open"

/-- The flag before the caller's token. -/
def callerFlag : Argument := Utf8.bytes "-ttprocid"

/-- The flag before a temp file. -/
def tempFlag : Argument := Utf8.bytes "-tmp"

/-- What every request for help starts with. -/
def helpStart : Argument := Utf8.bytes "-h"

/-- The three ways an argument can be an option. -/
inductive Flag where
  | openPolicy
  | caller
  | tempFile
deriving DecidableEq

/-- The option an argument is, if it is one. -/
def flag? (argument : Argument) : Option Flag :=
  if argument = openFlag then some .openPolicy
  else if argument = callerFlag then some .caller
  else if argument = tempFlag then some .tempFile
  else none

/-- The request with one option's value taken in. -/
def withOption (request : Request) (flag : Flag) (value : Argument) : Request :=
  match flag with
  | .openPolicy =>
    { request with policy := .ofOption (Text.leadingInteger (Utf8.decodeLossy value)) }
  | .caller => { request with caller := (Caller.parse (Utf8.lossyString value)).toOption }
  | .tempFile => { request with tempFiles := request.tempFiles ++ [⟨value⟩] }

/-- Reads the arguments that follow the options already in `request`. -/
def parseFrom (request : Request) : List Argument → Except UsageError Request
  | [] => .ok request
  | argument :: rest =>
    match flag? argument with
    | some flag =>
      match rest with
      | [] => .error .missingValue
      | value :: others => parseFrom (request.withOption flag value) others
    | none =>
      if helpStart.isPrefixOf argument then .error .help
      else .ok { request with command := some (argument :: rest) }

/-- Reads the arguments after the program's name. -/
def parse (arguments : List Argument) : Except UsageError Request :=
  parseFrom {} arguments

/-- The name of the command, by which its error output is tagged. -/
def commandName (request : Request) : Option String :=
  request.command.bind fun argv => argv.head?.map Utf8.lossyString

/-- The help text of a program called so. -/
def usage (program : Argument) : String :=
  "Usage:\n\t" ++ Utf8.lossyString program ++ " [-options ...] cmd [cmd arg ...]\n\n" ++
    "where options include:\n" ++
    "\t-open open-option\n" ++
    "\t\t-1 continue to execute after cmd terminates,\n" ++
    "\t\t   thus keeping the terminal window open.\n" ++
    "\t\t 0 exit as soon as cmd terminates, thus allowing\n" ++
    "\t\t   the terminal window to close.\n" ++
    "\t\t n continue to execute if cmd terminates within n\n" ++
    "\t\t   seconds of starting.\n" ++
    "\t-ttprocid procid\n" ++
    "\t-tmp tmpfile [-tmp tmpfile ...]\n\n"

/-! ### One option at a time -/

theorem parseFrom_option (request : Request) {argument : Argument} {flag : Flag}
    (isFlag : flag? argument = some flag) (value : Argument) (others : List Argument) :
    parseFrom request (argument :: value :: others) =
      parseFrom (request.withOption flag value) others := by
  simp [parseFrom, isFlag]

theorem parseFrom_option_alone (request : Request) {argument : Argument} {flag : Flag}
    (isFlag : flag? argument = some flag) :
    parseFrom request [argument] = .error .missingValue := by
  simp [parseFrom, isFlag]

theorem parseFrom_help (request : Request) {argument : Argument} (rest : List Argument)
    (noFlag : flag? argument = none) (help : helpStart.isPrefixOf argument) :
    parseFrom request (argument :: rest) = .error .help := by
  simp [parseFrom, noFlag, help]

theorem parseFrom_command (request : Request) {argument : Argument} (rest : List Argument)
    (noFlag : flag? argument = none) (noHelp : helpStart.isPrefixOf argument = false) :
    parseFrom request (argument :: rest) =
      .ok { request with command := some (argument :: rest) } := by
  simp [parseFrom, noFlag, noHelp]

end Request

end LaunchSupervisor
