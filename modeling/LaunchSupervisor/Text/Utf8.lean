/-!
**UTF-8, read byte by byte.** A reader holds the bytes of the character under way and, for the next
byte, the range that keeps the sequence well formed; a byte out of range ends the sequence as broken
and is then read anew. So every byte string falls into characters and broken pieces, each broken
piece being the longest start of a character that stands there.

* `encode_append`: the bytes of two texts in a row are their bytes in a row.
-/

namespace LaunchSupervisor.Utf8

/-- The bytes of one character. -/
def encodeChar (c : Char) : List UInt8 :=
  let n := c.toNat
  if n < 0x80 then [n.toUInt8]
  else if n < 0x800 then [(0xC0 + n / 64).toUInt8, (0x80 + n % 64).toUInt8]
  else if n < 0x10000 then
    [(0xE0 + n / 4096).toUInt8, (0x80 + n / 64 % 64).toUInt8, (0x80 + n % 64).toUInt8]
  else
    [(0xF0 + n / 262144).toUInt8, (0x80 + n / 4096 % 64).toUInt8, (0x80 + n / 64 % 64).toUInt8,
      (0x80 + n % 64).toUInt8]

/-- The bytes of a text. -/
def encode (text : List Char) : List UInt8 :=
  text.flatMap encodeChar

/-- The bytes of a string. -/
def bytes (text : String) : List UInt8 :=
  encode text.toList

/-- A character under way. -/
structure Pending where
  /-- The bytes read so far, back to front. -/
  seen : List UInt8
  /-- The bits they carry. -/
  value : Nat
  /-- How many bytes are still to come. -/
  missing : Nat
  /-- The least next byte that keeps the sequence well formed. -/
  low : Nat
  /-- The greatest such byte. -/
  high : Nat

/-- A stretch of a byte string. -/
inductive Piece where
  | char (c : Char)
  /-- Bytes that are no character; `cutOff` if the string ended in the middle of one. -/
  | broken (bytes : List UInt8) (cutOff : Bool)
deriving DecidableEq

/-- What has been read, back to front, and the character under way. -/
structure Reader where
  pieces : List Piece
  pending : Option Pending

/-- A reader at the start of a byte string. -/
def Reader.start : Reader := ⟨[], none⟩

/-- Reads a byte that starts a sequence. -/
def Reader.first (pieces : List Piece) (b : UInt8) : Reader :=
  let n := b.toNat
  if n < 0x80 then ⟨.char (Char.ofNat n) :: pieces, none⟩
  else if n < 0xC2 then ⟨.broken [b] false :: pieces, none⟩
  else if n < 0xE0 then ⟨pieces, some ⟨[b], n % 32, 1, 0x80, 0xBF⟩⟩
  else if n < 0xF0 then
    let low := if n = 0xE0 then 0xA0 else 0x80
    ⟨pieces, some ⟨[b], n % 16, 2, low, if n = 0xED then 0x9F else 0xBF⟩⟩
  else if n < 0xF5 then
    let low := if n = 0xF0 then 0x90 else 0x80
    ⟨pieces, some ⟨[b], n % 8, 3, low, if n = 0xF4 then 0x8F else 0xBF⟩⟩
  else ⟨.broken [b] false :: pieces, none⟩

/-- Reads one byte. -/
def Reader.next (reader : Reader) (b : UInt8) : Reader :=
  match reader.pending with
  | none => .first reader.pieces b
  | some p =>
    if p.low ≤ b.toNat ∧ b.toNat ≤ p.high then
      let value := p.value * 64 + b.toNat % 64
      if p.missing = 1 then ⟨.char (Char.ofNat value) :: reader.pieces, none⟩
      else ⟨reader.pieces, some ⟨b :: p.seen, value, p.missing - 1, 0x80, 0xBF⟩⟩
    else .first (.broken p.seen.reverse false :: reader.pieces) b

/-- The pieces read, the character under way counting as cut off. -/
def Reader.finish (reader : Reader) : List Piece :=
  match reader.pending with
  | none => reader.pieces.reverse
  | some p => (.broken p.seen.reverse true :: reader.pieces).reverse

/-- A byte string as characters and broken pieces. -/
def pieces (data : List UInt8) : List Piece :=
  (data.foldl Reader.next .start).finish

/-- Where a byte string stops being well formed. -/
inductive Fault where
  /-- `length` bytes from `index` on cannot start a character. -/
  | invalid (index length : Nat)
  /-- The string ends within the character that starts at `index`. -/
  | incomplete (index : Nat)
deriving DecidableEq

/-- How a fault is reported. -/
def Fault.message : Fault → String
  | .invalid index length =>
    "invalid utf-8 sequence of " ++ toString length ++ " bytes from index " ++ toString index
  | .incomplete index => "incomplete utf-8 byte sequence from index " ++ toString index

/-- The first broken piece, `index` bytes into the string. -/
def firstFault (index : Nat) : List Piece → Option Fault
  | [] => none
  | .char c :: rest => firstFault (index + (encodeChar c).length) rest
  | .broken bytes cutOff :: _ =>
    some (if cutOff then .incomplete index else .invalid index bytes.length)

/-- The character of a piece. -/
def Piece.char? : Piece → Option Char
  | .char c => some c
  | .broken .. => none

/-- The character that stands for a piece, U+FFFD for a broken one. -/
def Piece.shown : Piece → Char
  | .char c => c
  | .broken .. => '\uFFFD'

/-- The text of a well-formed byte string. -/
def decode (data : List UInt8) : Except Fault (List Char) :=
  let found := pieces data
  match firstFault 0 found with
  | some fault => .error fault
  | none => .ok (found.filterMap Piece.char?)

/-- The text of any byte string, with U+FFFD for each broken piece. -/
def decodeLossy (data : List UInt8) : List Char :=
  (pieces data).map Piece.shown

/-- The string of a well-formed byte string. -/
def string? (data : List UInt8) : Option String :=
  (decode data).toOption.map String.ofList

/-- The string of any byte string, with U+FFFD for each broken piece. -/
def lossyString (data : List UInt8) : String :=
  String.ofList (decodeLossy data)

/-! ### The bytes of a text -/

@[simp] theorem encode_nil : encode [] = [] := rfl

@[simp] theorem encode_cons (c : Char) (text : List Char) :
    encode (c :: text) = encodeChar c ++ encode text := rfl

theorem encode_append (first second : List Char) :
    encode (first ++ second) = encode first ++ encode second := by
  simp [encode]

end LaunchSupervisor.Utf8
