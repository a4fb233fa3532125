import LaunchSupervisor.Json.Basic
import LaunchSupervisor.Json.Magnitude
import LaunchSupervisor.Text.Number
import LaunchSupervisor.Text.Utf8

/-!
**JSON tokens, read byte by byte.** The lexer is a machine that takes one byte at a time: between
tokens, within a string with its escapes, or within a number or a word, whose letters are collected
and judged when they end. A string must be well-formed UTF-8 and may hold no control character and
no half of a surrogate pair.
-/

namespace LaunchSupervisor.Json

/-- A token. -/
inductive Token where
  | openObject
  | closeObject
  | openArray
  | closeArray
  | comma
  | colon
  | string (value : String)
  | integer (value : Int)
  | real
  | bool (value : Bool)
  | null
deriving DecidableEq

namespace Lexer

/-- Where the lexer is within a string. -/
inductive Within where
  | plain
  /-- After a backslash. -/
  | escape
  /-- Within `\u`: the first half of a pair if there is one, the digits left, the value so far. -/
  | unit (lead : Option Nat) (left : Nat) (value : Nat)
  /-- After the first half of a pair, before the backslash of the second. -/
  | pairEscape (lead : Nat)
  /-- After that backslash. -/
  | pairUnit (lead : Nat)
deriving DecidableEq

/-- Where the lexer is. -/
inductive Mode where
  | between
  /-- Within a string, whose bytes are held back to front. -/
  | string (read : List UInt8) (within : Within)
  /-- Within a number, held back to front. -/
  | number (read : List UInt8)
  /-- Within a word, held back to front. -/
  | word (read : List UInt8)

end Lexer

/-- The tokens read, back to front, and where the lexer is. -/
structure Lexer where
  tokens : List Token
  mode : Lexer.Mode

namespace Lexer

/-- The value of a hexadecimal digit. -/
def hexValue? (b : UInt8) : Option Nat :=
  let n := b.toNat
  if 48 ≤ n ∧ n ≤ 57 then some (n - 48)
  else if 97 ≤ n ∧ n ≤ 102 then some (n - 87)
  else if 65 ≤ n ∧ n ≤ 70 then some (n - 55)
  else none

/-- The byte that a short escape stands for. -/
def shortEscape? (b : UInt8) : Option UInt8 :=
  if b = 34 ∨ b = 92 ∨ b = 47 then some b
  else if b = 98 then some 8
  else if b = 102 then some 12
  else if b = 110 then some 10
  else if b = 114 then some 13
  else if b = 116 then some 9
  else none

/-- A string's bytes with one character more, both back to front. -/
def pushCode (read : List UInt8) (code : Nat) : List UInt8 :=
  (Utf8.encodeChar (Char.ofNat code)).reverse ++ read

/-- What a finished `\u` unit adds to a string. -/
def closeUnit (read : List UInt8) (lead : Option Nat) (value : Nat) : Option Mode :=
  let isLead := 0xD800 ≤ value ∧ value ≤ 0xDBFF
  let isTrail := 0xDC00 ≤ value ∧ value ≤ 0xDFFF
  match lead with
  | some lead =>
    if isTrail then
      some (.string (pushCode read (0x10000 + (lead - 0xD800) * 1024 + (value - 0xDC00))) .plain)
    else none
  | none =>
    if isLead then some (.string read (.pairEscape value))
    else if isTrail then none
    else some (.string (pushCode read value) .plain)

/-- Whether a byte may stand in a number. -/
def inNumber (b : UInt8) : Bool :=
  (48 ≤ b && b ≤ 57) || b == 43 || b == 45 || b == 46 || b == 69 || b == 101

/-- Whether a byte may stand in a word. -/
def inWord (b : UInt8) : Bool :=
  97 ≤ b && b ≤ 122

/-- Whether a byte is space between tokens. -/
def isSpace (b : UInt8) : Bool :=
  b == 32 || b == 9 || b == 10 || b == 13

/-- Whether a byte is a decimal digit. -/
def isDigit (b : UInt8) : Bool :=
  48 ≤ b && b ≤ 57

/-- The digits of an exponent with its sign taken in, if that is what follows. -/
def exponent? : List UInt8 → Option Int
  | 43 :: digits =>
    if !digits.isEmpty && digits.all isDigit then some (digitsValue digits) else none
  | 45 :: digits =>
    if !digits.isEmpty && digits.all isDigit then some (-(digitsValue digits : Int)) else none
  | digits => if !digits.isEmpty && digits.all isDigit then some (digitsValue digits) else none

/-- What a number without sign, fraction or exponent stands for. -/
def wholeNumber (negative : Bool) (value : Nat) : Token :=
  if negative then
    if value = 0 ∨ 9223372036854775808 < value then .real else .integer (-(value : Int))
  else if value < wordBound then .integer value
  else .real

/-- The token of a number with the given parts that is not whole, unless it is too large. -/
def real? (whole fraction : List UInt8) (exponent : Int) : Option Token :=
  if (Scaled.ofParts whole fraction exponent).isFinite then some .real else none

/-- The token of a number with the given digits and, after the letter e, the given exponent. -/
def scaled? (whole fraction : List UInt8) : List UInt8 → Option Token
  | [] => none
  | mark :: exponent =>
    if mark = 69 ∨ mark = 101 then (exponent? exponent).bind (real? whole fraction) else none

/-- The token of a number without its sign. -/
def unsigned? (negative : Bool) (text : List UInt8) : Option Token :=
  let whole := text.takeWhile isDigit
  let wellFormed := !whole.isEmpty && (whole.length == 1 || whole.head? != some 48)
  if !wellFormed then none
  else
    match text.dropWhile isDigit with
    | [] => (real? whole [] 0).map fun _ => wholeNumber negative (digitsValue whole)
    | 46 :: fraction =>
      let places := fraction.takeWhile isDigit
      if places.isEmpty then none
      else
        match fraction.dropWhile isDigit with
        | [] => real? whole places 0
        | rest => scaled? whole places rest
    | rest => scaled? whole [] rest

/-- The token of a number. -/
def number? : List UInt8 → Option Token
  | 45 :: rest => unsigned? true rest
  | text => unsigned? false text

/-- The token of a word. -/
def word? (text : List UInt8) : Option Token :=
  if text = Utf8.bytes "true" then some (.bool true)
  else if text = Utf8.bytes "false" then some (.bool false)
  else if text = Utf8.bytes "null" then some .null
  else none

/-- Reads a byte between tokens. -/
def outside (tokens : List Token) (b : UInt8) : Option Lexer :=
  if isSpace b then some ⟨tokens, .between⟩
  else if b = 34 then some ⟨tokens, .string [] .plain⟩
  else if b = 123 then some ⟨.openObject :: tokens, .between⟩
  else if b = 125 then some ⟨.closeObject :: tokens, .between⟩
  else if b = 91 then some ⟨.openArray :: tokens, .between⟩
  else if b = 93 then some ⟨.closeArray :: tokens, .between⟩
  else if b = 44 then some ⟨.comma :: tokens, .between⟩
  else if b = 58 then some ⟨.colon :: tokens, .between⟩
  else if isDigit b || b == 45 then some ⟨tokens, .number [b]⟩
  else if inWord b then some ⟨tokens, .word [b]⟩
  else none

/-- Reads a byte within a string. -/
def inside (tokens : List Token) (read : List UInt8) (b : UInt8) : Within → Option Lexer
  | .plain =>
    if b = 34 then
      (Utf8.string? read.reverse).map fun value => ⟨.string value :: tokens, .between⟩
    else if b = 92 then some ⟨tokens, .string read .escape⟩
    else if b < 32 then none
    else some ⟨tokens, .string (b :: read) .plain⟩
  | .escape =>
    if b = 117 then some ⟨tokens, .string read (.unit none 4 0)⟩
    else (shortEscape? b).map fun plain => ⟨tokens, .string (plain :: read) .plain⟩
  | .unit lead left value =>
    match hexValue? b with
    | none => none
    | some digit =>
      if left ≤ 1 then (closeUnit read lead (value * 16 + digit)).map fun mode =>
        ⟨tokens, mode⟩
      else some ⟨tokens, .string read (.unit lead (left - 1) (value * 16 + digit))⟩
  | .pairEscape lead => if b = 92 then some ⟨tokens, .string read (.pairUnit lead)⟩ else none
  | .pairUnit lead =>
    if b = 117 then some ⟨tokens, .string read (.unit (some lead) 4 0)⟩ else none

/-- Reads one byte. -/
def next (lexer : Lexer) (b : UInt8) : Option Lexer :=
  match lexer.mode with
  | .between => outside lexer.tokens b
  | .string read within => inside lexer.tokens read b within
  | .number read =>
    if inNumber b then some { lexer with mode := .number (b :: read) }
    else
      match number? read.reverse with
      | none => none
      | some token => outside (token :: lexer.tokens) b
  | .word read =>
    if inWord b then some { lexer with mode := .word (b :: read) }
    else
      match word? read.reverse with
      | none => none
      | some token => outside (token :: lexer.tokens) b

/-- Reads a list of bytes. -/
def run (lexer : Lexer) : List UInt8 → Option Lexer
  | [] => some lexer
  | b :: rest =>
    match lexer.next b with
    | none => none
    | some after => after.run rest

/-- The tokens read, if the input may end here. -/
def finish (lexer : Lexer) : Option (List Token) :=
  match lexer.mode with
  | .between => some lexer.tokens.reverse
  | .string _ _ => none
  | .number read => (number? read.reverse).map fun token => (token :: lexer.tokens).reverse
  | .word read => (word? read.reverse).map fun token => (token :: lexer.tokens).reverse

theorem run_append (lexer : Lexer) (first second : List UInt8) :
    lexer.run (first ++ second) = (lexer.run first).bind fun after => after.run second := by
  induction first generalizing lexer with
  | nil => rfl
  | cons b rest ih =>
    simp only [List.cons_append, run]
    cases lexer.next b with
    | none => rfl
    | some after => exact ih after

end Lexer

/-- The tokens of a JSON text. -/
def tokens? (text : List UInt8) : Option (List Token) :=
  ((Lexer.mk [] .between).run text).bind Lexer.finish

end LaunchSupervisor.Json
