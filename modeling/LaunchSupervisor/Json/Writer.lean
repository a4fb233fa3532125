import LaunchSupervisor.Json.Basic
import LaunchSupervisor.Text.Quoted

/-!
**JSON text, compact.** Strings are written with the short escapes where there are any, `\u` for the
other control characters, and everything else as it stands, so no line feed is ever written.

* `newline_not_mem_escape`: an escaped character holds no line feed.
-/

namespace LaunchSupervisor.Json

/-- The four digits of a control character. -/
def controlDigits (n : Nat) : List Char :=
  ['0', '0', Nat.digitChar (n / 16), Nat.digitChar (n % 16)]

/-- The written form of one character of a string. -/
def escape (c : Char) : List Char :=
  if c = '"' then ['\\', '"']
  else if c = '\\' then ['\\', '\\']
  else if c = '\n' then ['\\', 'n']
  else if c = '\r' then ['\\', 'r']
  else if c = '\t' then ['\\', 't']
  else if c = '\x08' then ['\\', 'b']
  else if c = '\x0c' then ['\\', 'f']
  else if c.toNat < 0x20 then '\\' :: 'u' :: controlDigits c.toNat
  else [c]

/-- The written form of a string. -/
def writeString (text : String) : List Char :=
  '"' :: text.toList.flatMap escape ++ ['"']

mutual

/-- The written form of a value. -/
def write : Json → List Char
  | .null => "null".toList
  | .bool true => "true".toList
  | .bool false => "false".toList
  | .integer value => (toString value).toList
  | .real => "0.0".toList
  | .string value => writeString value
  | .array elements => '[' :: writeElements elements ++ [']']
  | .object members => '\x7b' :: writeMembers members ++ ['\x7d']

/-- Values with commas between. -/
def writeElements : List Json → List Char
  | [] => []
  | [last] => write last
  | element :: rest => write element ++ ',' :: writeElements rest

/-- Members with commas between. -/
def writeMembers : List (String × Json) → List Char
  | [] => []
  | [(name, value)] => writeString name ++ ':' :: write value
  | (name, value) :: rest => writeString name ++ ':' :: write value ++ ',' :: writeMembers rest

end

/-- The bytes of the written form of a value. -/
def writeBytes (value : Json) : List UInt8 :=
  Utf8.encode (write value)

/-! ### One line -/

theorem newline_not_mem_escape (c : Char) : '\n' ∉ escape c := by
  unfold escape
  repeat' split
  any_goals simp
  · rename_i low
    have small : ∀ n : Fin 32, '\n' ∉ '\\' :: 'u' :: controlDigits n.val := by decide
    simpa using small ⟨c.toNat, low⟩
  · rename_i noNewline _ _ _ _ _
    exact fun same => noNewline same.symm

theorem newline_not_mem_writeString (text : String) : '\n' ∉ writeString text := by
  simp [writeString, newline_not_mem_escape]

end LaunchSupervisor.Json
