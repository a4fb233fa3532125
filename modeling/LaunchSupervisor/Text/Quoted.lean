import LaunchSupervisor.Text.CodeRange
import LaunchSupervisor.Text.UnshownTable
import LaunchSupervisor.Text.Utf8

/-!
**Quoted text, as messages show it.** A quote, a backslash and the common control characters are
written with a backslash, every other character that has no form of its own as `\u` with its code
point in braces, and bytes that are no text as `\x` with two digits.

* `quoteChar_plain`: a character that is shown as itself is written as itself.
-/

namespace LaunchSupervisor.Text

/-- Whether a character is shown as itself. -/
def isShown (c : Char) : Bool :=
  if c.toNat < 0x80 then 0x20 ≤ c.toNat && c.toNat < 0x7F
  else !inRanges unshownRanges c.toNat

/-- A number in base 16 with digits up to f. -/
def hexDigits (n : Nat) : List Char :=
  Nat.toDigits 16 n

/-- The quoted form of one character. -/
def quoteChar (c : Char) : List Char :=
  if c = '"' then ['\\', '"']
  else if c = '\\' then ['\\', '\\']
  else if c = '\n' then ['\\', 'n']
  else if c = '\r' then ['\\', 'r']
  else if c = '\t' then ['\\', 't']
  else if c = '\x00' then ['\\', '0']
  else if isShown c then [c]
  else ['\\', 'u', '\x7b'] ++ hexDigits c.toNat ++ ['\x7d']

/-- A text in quotes. -/
def quoted (text : List Char) : List Char :=
  '"' :: text.flatMap quoteChar ++ ['"']

/-- One byte as two upper-case hexadecimal digits. -/
def hexByte (b : UInt8) : List Char :=
  let digit (n : Nat) : Char := (Nat.digitChar n).toUpper
  [digit (b.toNat / 16), digit (b.toNat % 16)]

/-- The quoted form of a piece of a byte string. -/
def quotePiece : Utf8.Piece → List Char
  | .char c => quoteChar c
  | .broken bytes _ => bytes.flatMap fun b => ['\\', 'x'] ++ hexByte b

/-- A byte string in quotes. -/
def quotedBytes (data : List UInt8) : List Char :=
  '"' :: (Utf8.pieces data).flatMap quotePiece ++ ['"']

/-- A string in quotes. -/
def quotedString (text : String) : String :=
  String.ofList (quoted text.toList)

/-! ### Small facts -/

theorem quoteChar_plain (c : Char) (shown : isShown c) (quote : c ≠ '"') (slash : c ≠ '\\') :
    quoteChar c = [c] := by
  have control : ∀ d : Char, isShown d = false → c ≠ d := fun d hidden same => by
    rw [same, hidden] at shown
    cases shown
  simp [quoteChar, quote, slash, control '\n' rfl, control '\r' rfl, control '\t' rfl,
    control '\x00' rfl, shown]

end LaunchSupervisor.Text
