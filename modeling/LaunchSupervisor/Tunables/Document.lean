import LaunchSupervisor.Environment
import LaunchSupervisor.Files.Basic
import LaunchSupervisor.Text.Lines
import LaunchSupervisor.Text.Number
import LaunchSupervisor.Tunables.Basic

/-!
**A document of settings.** Each line gives one setting an integer, or is blank; a comment may stand
at its end. The notation is that of TOML, of which a document of integers at the top level uses no
more than this.

* `resolve_cases`: tunables are those of the document, or the standard ones.
-/

namespace LaunchSupervisor

/-! ### The settings by name -/

/-- The settings that a document can give. -/
inductive Setting where
  | shortPollMs
  | longPollSecs
  | urgentGraceMs
  | replyWaitMs
  | noticeDelayMs
  | flushCeiling
  | forkAttempts
  | forkBackoffMs
deriving DecidableEq

namespace Setting

/-- The name of a setting. -/
def name : Setting → String
  | .shortPollMs => "short_poll_ms"
  | .longPollSecs => "long_poll_secs"
  | .urgentGraceMs => "urgent_grace_ms"
  | .replyWaitMs => "reply_wait_ms"
  | .noticeDelayMs => "notice_delay_ms"
  | .flushCeiling => "stderr_flush_ceiling"
  | .forkAttempts => "fork_attempts"
  | .forkBackoffMs => "fork_backoff_ms"

/-- All settings. -/
def all : List Setting :=
  [.shortPollMs, .longPollSecs, .urgentGraceMs, .replyWaitMs, .noticeDelayMs, .flushCeiling,
    .forkAttempts, .forkBackoffMs]

/-- The setting with a name. -/
def ofName? (text : List Char) : Option Setting :=
  all.find? fun setting => setting.name.toList == text

/-- The greatest value plus one that a setting can take. -/
def bound : Setting → Nat
  | .forkAttempts => UInt32.size
  | _ => UInt64.size

theorem ofName?_name (setting : Setting) : ofName? setting.name.toList = some setting := by
  cases setting <;> rfl

end Setting

/-- The settings with one changed. -/
def Settings.set (settings : Settings) (setting : Setting) (n : Nat) : Settings :=
  match setting with
  | .shortPollMs => { settings with shortPollMs := UInt64.ofNat n }
  | .longPollSecs => { settings with longPollSecs := UInt64.ofNat n }
  | .urgentGraceMs => { settings with urgentGraceMs := UInt64.ofNat n }
  | .replyWaitMs => { settings with replyWaitMs := UInt64.ofNat n }
  | .noticeDelayMs => { settings with noticeDelayMs := UInt64.ofNat n }
  | .flushCeiling => { settings with flushCeiling := UInt64.ofNat n }
  | .forkAttempts => { settings with forkAttempts := UInt32.ofNat n }
  | .forkBackoffMs => { settings with forkBackoffMs := UInt64.ofNat n }

namespace Document

/-! ### Integers -/

/-- The value of a hexadecimal digit. -/
def hexValue? (c : Char) : Option Nat :=
  if c.isDigit then some (c.toNat - 48)
  else if 'a' ≤ c ∧ c ≤ 'f' then some (c.toNat - 87)
  else if 'A' ≤ c ∧ c ≤ 'F' then some (c.toNat - 55)
  else none

/-- The value of a row of digits in a base, after digits worth `value`; an underscore may stand
between two digits. -/
def digits? (base value : Nat) : List Char → Option Nat
  | [] => none
  | c :: rest => do
    let digit ← (hexValue? c).filter (· < base)
    let value := value * base + digit
    match rest with
    | [] => some value
    | '_' :: more => digits? base value more
    | more => digits? base value more

/-- An integer without sign in base ten: no zero stands before another digit. -/
def decimal? (text : List Char) : Option Nat :=
  match text with
  | '0' :: _ :: _ => none
  | _ => digits? 10 0 text

/-- An integer, in base ten with or without a sign, or in base sixteen, eight or two. -/
def integer? (text : List Char) : Option Int :=
  match text with
  | '+' :: rest => (decimal? rest).map fun n => (n : Int)
  | '-' :: rest => (decimal? rest).map fun n => -(n : Int)
  | '0' :: 'x' :: rest => (digits? 16 0 rest).map fun n => (n : Int)
  | '0' :: 'o' :: rest => (digits? 8 0 rest).map fun n => (n : Int)
  | '0' :: 'b' :: rest => (digits? 2 0 rest).map fun n => (n : Int)
  | rest => (decimal? rest).map fun n => (n : Int)

/-! ### Keys -/

/-- A character of a key without quotes. -/
def isBareKey (c : Char) : Bool :=
  c.isAlphanum || c == '_' || c == '-'

/-- A character that may stand as itself in quotes. -/
def isQuotable (c : Char) : Bool :=
  c == '\t' || (0x20 ≤ c.toNat && c.toNat != 0x7F)

/-- The character that a letter after a backslash stands for. -/
def escaped? : Char → Option Char
  | 'b' => some '\x08'
  | 't' => some '\t'
  | 'n' => some '\n'
  | 'f' => some '\x0c'
  | 'r' => some '\r'
  | 'e' => some '\x1b'
  | '"' => some '"'
  | '\\' => some '\\'
  | _ => none

/-- The digits of the code point after a backslash and a letter. -/
def escapeLength? : Char → Option Nat
  | 'x' => some 2
  | 'u' => some 4
  | 'U' => some 8
  | _ => none

/-- Where a reader of quoted text stands. -/
inductive Escape where
  /-- Outside an escape. -/
  | none
  /-- After a backslash. -/
  | opened
  /-- Within the digits of a code point. -/
  | digits (missing value : Nat)

/-- A text in double quotes whose first quote has been read; `done` holds it back to front. Gives
the text and what follows. -/
def quotedText? (done : List Char) : Escape → List Char → Option (List Char × List Char)
  | _, [] => none
  | .none, c :: rest =>
    if c = '"' then some (done.reverse, rest)
    else if c = '\\' then quotedText? done .opened rest
    else if isQuotable c then quotedText? (c :: done) .none rest
    else none
  | .opened, c :: rest =>
    match escapeLength? c with
    | some n => quotedText? done (.digits n 0) rest
    | none => (escaped? c).bind fun d => quotedText? (d :: done) .none rest
  | .digits missing value, c :: rest =>
    (hexValue? c).bind fun digit =>
      let value := value * 16 + digit
      if 1 < missing then quotedText? done (.digits (missing - 1) value) rest
      else if value.isValidChar then quotedText? (Char.ofNat value :: done) .none rest
      else none

/-- The key a text starts with, and what follows. -/
def key? (text : List Char) : Option (List Char × List Char) :=
  match text with
  | '"' :: rest => quotedText? [] .none rest
  | '\'' :: rest =>
    match rest.dropWhile (fun c => c != '\'' && isQuotable c) with
    | '\'' :: after => some (rest.takeWhile fun c => c != '\'' && isQuotable c, after)
    | _ => none
  | _ =>
    if (text.takeWhile isBareKey).isEmpty then none
    else some (text.takeWhile isBareKey, text.dropWhile isBareKey)

/-! ### Lines -/

/-- A space or a tab. -/
def isSpace (c : Char) : Bool :=
  c == ' ' || c == '\t'

/-- Whether nothing follows but spaces and a comment. -/
def endsLine (text : List Char) : Bool :=
  match text.dropWhile isSpace with
  | [] => true
  | '#' :: comment => comment.all isQuotable
  | _ => false

/-- A character of an integer. -/
def isIntegerChar (c : Char) : Bool :=
  c.isAlphanum || c == '_' || c == '+' || c == '-'

/-- The setting that a line gives, with its value. -/
def assignment? (line : List Char) : Option (Setting × Nat) := do
  let (key, afterKey) ← key? line
  let setting ← Setting.ofName? key
  match afterKey.dropWhile isSpace with
  | '=' :: right =>
    let value := right.dropWhile isSpace
    let n ← integer? (value.takeWhile isIntegerChar)
    if endsLine (value.dropWhile isIntegerChar) && decide (0 ≤ n) &&
        decide (n < setting.bound) then
      some (setting, n.toNat)
    else none
  | _ => none

/-- The settings that lines give; each setting may be given once. -/
def readFrom (given : List Setting) (settings : Settings) : List (List Char) → Option Settings
  | [] => some settings
  | line :: rest =>
    if endsLine line then readFrom given settings rest
    else
      match assignment? (line.dropWhile isSpace) with
      | none => none
      | some (setting, n) =>
        if given.contains setting then none
        else readFrom (setting :: given) (settings.set setting n) rest

/-- The text without the mark of byte order that it may start with. -/
def afterMark : List Char → List Char
  | '\uFEFF' :: rest => rest
  | text => text

/-- The settings that a text gives. -/
def read (text : List Char) : Option Settings :=
  readFrom [] {} (Text.lines (afterMark text))

end Document

/-! ### The tunables of a run -/

/-- Why a document gives no tunables. -/
inductive DocumentError where
  | unreadable (cause : FileError)
  /-- It is no document of settings. -/
  | malformed
  | unacceptable (cause : Settings.Fault)
deriving DecidableEq

/-- How an error is reported. -/
def DocumentError.message : DocumentError → String
  | .unreadable cause => cause.message
  | .malformed => "TOML parsing error"
  | .unacceptable cause => "Configuration error: " ++ cause.message

variable {φ : Type} [FileSystem φ]

/-- The settings in a file. -/
def Settings.load (files : φ) (path : Path) : Except DocumentError Settings :=
  match FileSystem.readText files path with
  | .error cause => .error (.unreadable cause)
  | .ok text =>
    match Document.read text.toList with
    | none => .error .malformed
    | some settings => .ok settings

namespace Tunables

/-- The tunables in a file. -/
def load (files : φ) (path : Path) : Except DocumentError Tunables :=
  match Settings.load files path with
  | .error error => .error error
  | .ok settings =>
    match settings.accept with
    | .error cause => .error (.unacceptable cause)
    | .ok tunables => .ok tunables

/-- The tunables in force: a document that gives none does not keep the command from being
launched. -/
def resolve (files : φ) (environment : Environment) : Tunables :=
  match environment.tunablesFile with
  | none => .standard
  | some path =>
    match load files path with
    | .ok tunables => tunables
    | .error _ => .standard

theorem resolve_cases (files : φ) (environment : Environment) :
    resolve files environment = .standard ∨
      ∃ path, environment.tunablesFile = some path ∧
        load files path = .ok (resolve files environment) := by
  unfold resolve
  split
  · exact .inl rfl
  · rename_i path given
    split
    · rename_i tunables read
      exact .inr ⟨path, given, read⟩
    · exact .inl rfl

end Tunables

end LaunchSupervisor
