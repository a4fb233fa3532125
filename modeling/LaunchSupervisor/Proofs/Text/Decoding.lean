import LaunchSupervisor.Text.Utf8

/-!
**A text is read back from its bytes.** Each character is written as one to four bytes; the reader
takes the first of them for what it is and expects exactly the others, so that the character is
there when the last has come.

* `decode_encode`, `string?_bytes`: no text changes on its way through its bytes.
* `mem_encodeChar`: only a character of ASCII is written with a byte of ASCII, its own.
-/

namespace LaunchSupervisor.Utf8

/-! ### One byte at a time -/

theorem toNat_toUInt8 {n : Nat} (small : n < 256) : n.toUInt8.toNat = n := by
  simpa using Nat.mod_eq_of_lt small

section

variable (read : List Piece)

theorem next_ascii {n : Nat} (ascii : n < 0x80) :
    Reader.next ⟨read, none⟩ n.toUInt8 = ⟨.char (Char.ofNat n) :: read, none⟩ := by
  simp only [Reader.next, Reader.first]
  rw [toNat_toUInt8 (by omega), if_pos ascii]

/-- The first of two bytes. -/
theorem next_ofTwo {v : Nat} (least : 2 ≤ v) (most : v < 32) :
    Reader.next ⟨read, none⟩ (0xC0 + v).toUInt8 =
      ⟨read, some ⟨[(0xC0 + v).toUInt8], v, 1, 0x80, 0xBF⟩⟩ := by
  simp only [Reader.next, Reader.first]
  rw [toNat_toUInt8 (by omega), if_neg (by omega), if_neg (by omega), if_pos (by omega)]
  have carried : (0xC0 + v) % 32 = v := by omega
  rw [carried]

/-- The first of three bytes. -/
theorem next_ofThree {v : Nat} (most : v < 16) :
    Reader.next ⟨read, none⟩ (0xE0 + v).toUInt8 =
      ⟨read, some ⟨[(0xE0 + v).toUInt8], v, 2, if v = 0 then 0xA0 else 0x80,
        if v = 13 then 0x9F else 0xBF⟩⟩ := by
  simp only [Reader.next, Reader.first]
  rw [toNat_toUInt8 (by omega), if_neg (by omega), if_neg (by omega), if_neg (by omega),
    if_pos (by omega)]
  have carried : (0xE0 + v) % 16 = v := by omega
  simp only [carried, Nat.add_eq_left, show 0xE0 + v = 0xED ↔ v = 13 by omega]

/-- The first of four bytes. -/
theorem next_ofFour {v : Nat} (most : v < 5) :
    Reader.next ⟨read, none⟩ (0xF0 + v).toUInt8 =
      ⟨read, some ⟨[(0xF0 + v).toUInt8], v, 3, if v = 0 then 0x90 else 0x80,
        if v = 4 then 0x8F else 0xBF⟩⟩ := by
  simp only [Reader.next, Reader.first]
  rw [toNat_toUInt8 (by omega), if_neg (by omega), if_neg (by omega), if_neg (by omega),
    if_neg (by omega), if_pos (by omega)]
  have carried : (0xF0 + v) % 8 = v := by omega
  simp only [carried, Nat.add_eq_left, show 0xF0 + v = 0xF4 ↔ v = 4 by omega]

/-- The last byte of a character. -/
theorem next_last {seen : List UInt8} {value low high d : Nat} (bits : d < 64)
    (least : low ≤ 0x80 + d) (most : 0x80 + d ≤ high) :
    Reader.next ⟨read, some ⟨seen, value, 1, low, high⟩⟩ (0x80 + d).toUInt8 =
      ⟨.char (Char.ofNat (value * 64 + d)) :: read, none⟩ := by
  simp only [Reader.next]
  rw [toNat_toUInt8 (by omega), if_pos ⟨least, most⟩, if_pos trivial]
  have carried : (0x80 + d) % 64 = d := by omega
  rw [carried]

/-- A byte in the middle of a character. -/
theorem next_middle {seen : List UInt8} {value missing low high d : Nat} (bits : d < 64)
    (least : low ≤ 0x80 + d) (most : 0x80 + d ≤ high) :
    Reader.next ⟨read, some ⟨seen, value, missing + 2, low, high⟩⟩ (0x80 + d).toUInt8 =
      ⟨read,
        some ⟨(0x80 + d).toUInt8 :: seen, value * 64 + d, missing + 1, 0x80, 0xBF⟩⟩ := by
  simp only [Reader.next]
  rw [toNat_toUInt8 (by omega), if_pos ⟨least, most⟩, if_neg (by omega)]
  have carried : (0x80 + d) % 64 = d := by omega
  rw [carried]
  rfl

/-- The bytes of a character are read as that character. -/
theorem foldl_encodeChar (c : Char) :
    (encodeChar c).foldl Reader.next ⟨read, none⟩ = ⟨.char c :: read, none⟩ := by
  have whole : Char.ofNat c.toNat = c := Char.ofNat_toNat c
  have range : c.toNat < 0xD800 ∨ 0xDFFF < c.toNat ∧ c.toNat < 0x110000 := c.valid
  unfold encodeChar
  generalize c.toNat = n at range whole
  dsimp only
  split
  · rename_i one
    rw [List.foldl_cons, next_ascii read one, whole]
    rfl
  · split
    · have value : n / 64 * 64 + n % 64 = n := by omega
      rw [List.foldl_cons, next_ofTwo read (by omega) (by omega), List.foldl_cons,
        next_last read (by omega) (by omega) (by omega), value, whole]
      rfl
    · split
      · have value : (n / 4096 * 64 + n / 64 % 64) * 64 + n % 64 = n := by omega
        rw [List.foldl_cons, next_ofThree read (by omega), List.foldl_cons,
          next_middle read (by omega) (by split <;> omega) (by split <;> omega), List.foldl_cons,
          next_last read (by omega) (by omega) (by omega), value, whole]
        rfl
      · have value : ((n / 262144 * 64 + n / 4096 % 64) * 64 + n / 64 % 64) * 64 + n % 64 = n := by
          omega
        rw [List.foldl_cons, next_ofFour read (by omega), List.foldl_cons,
          next_middle read (by omega) (by split <;> omega) (by split <;> omega), List.foldl_cons,
          next_middle read (by omega) (by omega) (by omega), List.foldl_cons,
          next_last read (by omega) (by omega) (by omega), value, whole]
        rfl

theorem foldl_encode (text : List Char) :
    (encode text).foldl Reader.next ⟨read, none⟩ =
      ⟨(text.map Piece.char).reverse ++ read, none⟩ := by
  induction text generalizing read with
  | nil => rfl
  | cons c rest ih =>
    rw [encode_cons, List.foldl_append, foldl_encodeChar, ih]
    simp

end

/-! ### Whole texts -/

theorem pieces_encode (text : List Char) : pieces (encode text) = text.map Piece.char := by
  unfold pieces Reader.start
  rw [foldl_encode]
  simp [Reader.finish]

theorem firstFault_chars (index : Nat) (text : List Char) :
    firstFault index (text.map Piece.char) = none := by
  induction text generalizing index with
  | nil => rfl
  | cons c rest ih => exact ih _

/-- **A text is read back from its bytes.** -/
theorem decode_encode (text : List Char) : decode (encode text) = .ok text := by
  simp only [decode]
  rw [pieces_encode, firstFault_chars]
  simp [List.filterMap_map, Function.comp_def, Piece.char?]

theorem string?_bytes (text : String) : string? (bytes text) = some text := by
  simp [string?, bytes, decode_encode, Except.toOption]

/-! ### The bytes of other characters than those of ASCII -/

/-- A byte of a character is the character itself, or both are beyond ASCII. -/
theorem mem_encodeChar {c : Char} {b : UInt8} (member : b ∈ encodeChar c) :
    b.toNat = c.toNat ∨ 0x80 ≤ b.toNat ∧ 0x80 ≤ c.toNat := by
  have range : c.toNat < 0xD800 ∨ 0xDFFF < c.toNat ∧ c.toNat < 0x110000 := c.valid
  unfold encodeChar at member
  generalize c.toNat = n at range member
  dsimp only at member
  split at member
  · rw [List.mem_singleton.mp member, toNat_toUInt8 (by omega)]
    exact Or.inl rfl
  · have beyond {v : Nat} (high : 0x80 ≤ v) (byte : v < 256) (same : b = v.toUInt8) :
        0x80 ≤ b.toNat := by
      rw [same, toNat_toUInt8 byte]
      exact high
    refine Or.inr ⟨?_, by omega⟩
    split at member
    · simp only [List.mem_cons, List.not_mem_nil, or_false] at member
      rcases member with first | last
      · exact beyond (by omega) (by omega) first
      · exact beyond (by omega) (by omega) last
    · split at member
      · simp only [List.mem_cons, List.not_mem_nil, or_false] at member
        rcases member with first | middle | last
        · exact beyond (by omega) (by omega) first
        · exact beyond (by omega) (by omega) middle
        · exact beyond (by omega) (by omega) last
      · simp only [List.mem_cons, List.not_mem_nil, or_false] at member
        rcases member with first | second | third | last
        · exact beyond (by omega) (by omega) first
        · exact beyond (by omega) (by omega) second
        · exact beyond (by omega) (by omega) third
        · exact beyond (by omega) (by omega) last

/-- A text without line feeds is written without them. -/
theorem newline_not_mem_encode {text : List Char} (plain : '\n' ∉ text) : 10 ∉ encode text := by
  intro member
  obtain ⟨c, inText, byte⟩ := List.mem_flatMap.mp member
  rcases mem_encodeChar byte with same | ⟨beyond, -⟩
  · have feed : c = '\n' := Char.toNat_inj.mp same.symm
    exact plain (feed ▸ inText)
  · exact absurd beyond (by decide)

theorem encodeChar_ascii {c : Char} (ascii : c.toNat < 0x80) :
    encodeChar c = [c.toNat.toUInt8] := by
  simp only [encodeChar]
  rw [if_pos ascii]

end LaunchSupervisor.Utf8
