import LaunchSupervisor.Json.Writer
import LaunchSupervisor.Proofs.Json.Numerals

/-!
**The tokens of a written value are read back.** A number or a word ends only with the byte that
follows it, so the lexer is looked at up to what the next mark will make of it: a written value is
lexed if, in front of every mark and at the end, the lexer holds the value's tokens.

* `lexes_write`: a readable value is lexed.
* `tokens?_writeBytes`: its tokens are those of its bytes.
* `run_escape`: an escaped character is read as that character.
-/

namespace LaunchSupervisor.Json

/-! ### The tokens of a value -/

mutual

/-- The tokens of a value. -/
def tokens : Json → List Token
  | .null => [.null]
  | .bool value => [.bool value]
  | .integer value => [.integer value]
  | .real => [.real]
  | .string value => [.string value]
  | .array elements => .openArray :: elementTokens elements ++ [.closeArray]
  | .object members => .openObject :: memberTokens members ++ [.closeObject]

/-- The tokens of values with commas between. -/
def elementTokens : List Json → List Token
  | [] => []
  | [last] => tokens last
  | element :: rest => tokens element ++ .comma :: elementTokens rest

/-- The tokens of members with commas between. -/
def memberTokens : List (String × Json) → List Token
  | [] => []
  | [(name, value)] => .string name :: .colon :: tokens value
  | (name, value) :: rest =>
    .string name :: .colon :: tokens value ++ .comma :: memberTokens rest

end

/-- **A value that can be read back**: its integers are of 64 bits, and at most so many containers
are open at once in it. -/
inductive Readable : Nat → Json → Prop where
  | null (room : Nat) : Readable room .null
  | bool (room : Nat) (value : Bool) : Readable room (.bool value)
  | integer (room : Nat) {value : Int} (least : -9223372036854775808 ≤ value)
    (most : value < 18446744073709551616) : Readable room (.integer value)
  | real (room : Nat) : Readable room .real
  | string (room : Nat) (value : String) : Readable room (.string value)
  | array {room : Nat} {elements : List Json}
    (all : ∀ element ∈ elements, Readable room element) :
    Readable (room + 1) (.array elements)
  | object {room : Nat} {members : List (String × Json)}
    (all : ∀ member ∈ members, Readable room member.2) : Readable (room + 1) (.object members)

namespace Lexer

/-! ### What a lexer holds -/

/-- A byte that ends what stands before it: a comma, a colon or a closing bracket. -/
def isMark (b : UInt8) : Prop :=
  b = 44 ∨ b = 58 ∨ b = 93 ∨ b = 125

/-- **A lexer holds tokens**, back to front, if they are what it comes to at the end and in front of
every mark. -/
structure Holds (lexer : Lexer) (tokens : List Token) : Prop where
  atEnd : lexer.finish = some tokens.reverse
  beforeMark : ∀ b, isMark b → lexer.next b = outside tokens b

/-- **Bytes are lexed** into tokens, whatever has been read before. -/
def Lexes (bytes : List UInt8) (tokens : List Token) : Prop :=
  ∀ read, ∃ lexer, (Lexer.mk read .between).run bytes = some lexer ∧
    lexer.Holds (tokens.reverse ++ read)

theorem holds_between (read : List Token) : Holds ⟨read, .between⟩ read :=
  ⟨rfl, fun _ _ => rfl⟩

theorem lexes_nil : Lexes [] [] :=
  fun read => ⟨_, rfl, holds_between read⟩

/-- One byte that is a token of its own, and then more. -/
theorem Lexes.cons {b : UInt8} {token : Token} {bytes : List UInt8} {tokens : List Token}
    (alone : ∀ read, outside read b = some ⟨token :: read, .between⟩)
    (lexes : Lexes bytes tokens) :
    Lexes (b :: bytes) (token :: tokens) := by
  intro read
  obtain ⟨lexer, run, holds⟩ := lexes (token :: read)
  refine ⟨lexer, ?_, ?_⟩
  · rw [Lexer.run, show (Lexer.mk read .between).next b = _ from alone read]
    exact run
  · rw [List.reverse_cons, List.append_assoc]
    exact holds

/-- Something that ends at a mark, and then more. -/
theorem Lexes.append {first second : List UInt8} {b : UInt8} {token : Token}
    {tokens others : List Token} (lexes : Lexes first tokens) (mark : isMark b)
    (alone : ∀ read, outside read b = some ⟨token :: read, .between⟩)
    (more : Lexes second others) : Lexes (first ++ b :: second) (tokens ++ token :: others) := by
  intro read
  obtain ⟨reached, run, holds⟩ := lexes read
  obtain ⟨lexer, rest, held⟩ := more (token :: (tokens.reverse ++ read))
  refine ⟨lexer, ?_, ?_⟩
  · rw [run_append, run, Option.bind_some, Lexer.run, holds.beforeMark b mark, alone]
    exact rest
  · rw [List.reverse_append, List.reverse_cons, List.append_assoc, List.append_assoc]
    exact held

theorem outside_comma (read : List Token) :
    outside read 44 = some ⟨.comma :: read, .between⟩ := rfl

theorem outside_colon (read : List Token) :
    outside read 58 = some ⟨.colon :: read, .between⟩ := rfl

/-! ### Numbers and words -/

theorem inNumber_of_isDigit {b : UInt8} (digit : isDigit b) : inNumber b := by
  simp only [isDigit] at digit
  simp [inNumber, digit]

theorem next_mark {b : UInt8} (mark : isMark b) : inNumber b = false ∧ inWord b = false := by
  rcases mark with rfl | rfl | rfl | rfl <;> exact ⟨rfl, rfl⟩

theorem holds_number {read : List UInt8} {token : Token} (found : number? read.reverse = some token)
    (tokens : List Token) : Holds ⟨tokens, .number read⟩ (token :: tokens) where
  atEnd := by simp only [finish, found, Option.map_some]
  beforeMark b mark := by simp only [next, (next_mark mark).1, found]; rfl

theorem holds_word {read : List UInt8} {token : Token} (found : word? read.reverse = some token)
    (tokens : List Token) : Holds ⟨tokens, .word read⟩ (token :: tokens) where
  atEnd := by simp only [finish, found, Option.map_some]
  beforeMark b mark := by simp only [next, (next_mark mark).2, found]; rfl

theorem run_number (tokens : List Token) (read : List UInt8) {bytes : List UInt8}
    (all : bytes.all isDigit) :
    run ⟨tokens, .number read⟩ bytes = some ⟨tokens, .number (bytes.reverse ++ read)⟩ := by
  induction bytes generalizing read with
  | nil => rfl
  | cons b rest ih =>
    rw [List.all_cons, Bool.and_eq_true] at all
    simp only [run, next, inNumber_of_isDigit all.1, if_true]
    rw [ih _ all.2, List.reverse_cons, List.append_assoc]
    rfl

/-- A digit or a minus starts a number. -/
theorem outside_number {b : UInt8} (starts : isDigit b ∨ b = 45) (tokens : List Token) :
    outside tokens b = some ⟨tokens, .number [b]⟩ := by
  have range : b = 45 ∨ 48 ≤ b.toNat ∧ b.toNat ≤ 57 := by
    rcases starts with digit | minus
    · simp only [isDigit, Bool.and_eq_true, decide_eq_true_eq, UInt8.le_iff_toNat_le,
        UInt8.reduceToNat] at digit
      exact Or.inr digit
    · exact Or.inl minus
  have number : (isDigit b || b == 45) = true := by
    rcases starts with digit | minus
    · rw [digit]; rfl
    · rw [minus]; rfl
  have other (code : UInt8) (far : code.toNat ≠ 45 ∧ (code.toNat < 48 ∨ 57 < code.toNat)) :
      b ≠ code := by
    rintro rfl
    rcases range with minus | ⟨least, most⟩
    · rw [minus] at far
      exact far.1 rfl
    · omega
  have space : isSpace b = false := by
    simp [isSpace, other 32, other 9, other 10, other 13]
  unfold outside
  rw [if_neg (by simp [space]), if_neg (other 34 (by decide)), if_neg (other 123 (by decide)),
    if_neg (other 125 (by decide)), if_neg (other 91 (by decide)), if_neg (other 93 (by decide)),
    if_neg (other 44 (by decide)), if_neg (other 58 (by decide)), if_pos number]

/-- A sign or a digit, and digits after it. -/
theorem lexes_number {b : UInt8} {digits : List UInt8} {token : Token}
    (starts : isDigit b ∨ b = 45) (all : digits.all isDigit)
    (found : number? (b :: digits) = some token) : Lexes (b :: digits) [token] := by
  intro read
  refine ⟨⟨read, .number (digits.reverse ++ [b])⟩, ?_, holds_number ?_ read⟩
  · rw [run, show (Lexer.mk read .between).next b = _ from outside_number starts read]
    exact run_number read [b] all
  · rw [List.reverse_append, List.reverse_reverse]
    exact found

theorem lexes_numeral {value : Int} (least : -9223372036854775808 ≤ value)
    (most : value < 18446744073709551616) : Lexes (numeral value) [.integer value] := by
  have found := number?_numeral least most
  by_cases whole : 0 ≤ value
  · have all := all_isDigit_decimal value.toNat
    obtain ⟨b, rest, digits⟩ := List.exists_cons_of_ne_nil (decimal_ne_nil value.toNat)
    rw [numeral_of_nonneg whole, digits] at found ⊢
    rw [digits, List.all_cons, Bool.and_eq_true] at all
    exact lexes_number (Or.inl all.1) all.2 found
  · rw [numeral_of_neg (by omega)] at found ⊢
    exact lexes_number (Or.inr rfl) (all_isDigit_decimal _) found

/-! ### Strings -/

section

variable (tokens : List Token) (read : List UInt8)

/-- Bytes that stand for themselves. -/
theorem run_plain {bytes : List UInt8}
    (plain : ∀ b ∈ bytes, b ≠ 34 ∧ b ≠ 92 ∧ 32 ≤ b.toNat) :
    run ⟨tokens, .string read .plain⟩ bytes =
      some ⟨tokens, .string (bytes.reverse ++ read) .plain⟩ := by
  induction bytes generalizing read with
  | nil => rfl
  | cons b rest ih =>
    obtain ⟨quote, slash, shown⟩ := plain b List.mem_cons_self
    have control : ¬ b < 32 := by
      rw [UInt8.lt_iff_toNat_lt]
      simp only [UInt8.reduceToNat]
      omega
    simp only [run, next, inside, if_neg quote, if_neg slash, if_neg control]
    rw [ih _ fun c member => plain c (List.mem_cons_of_mem _ member), List.reverse_cons,
      List.append_assoc]
    rfl

theorem hexValue?_digitChar : ∀ d : Fin 16,
    Utf8.encode [d.val.digitChar] = [d.val.digitChar.toNat.toUInt8] ∧
      hexValue? d.val.digitChar.toNat.toUInt8 = some d.val := by
  decide

/-- A control character, given by its code. -/
theorem run_controlDigits {n : Nat} (control : n < 0x20) :
    run ⟨tokens, .string read .plain⟩ (Utf8.encode ('\\' :: 'u' :: controlDigits n)) =
      some ⟨tokens, .string (pushCode read n) .plain⟩ := by
  obtain ⟨highByte, high⟩ := hexValue?_digitChar ⟨n / 16, by omega⟩
  obtain ⟨lowByte, low⟩ := hexValue?_digitChar ⟨n % 16, by omega⟩
  have bytes : Utf8.encode ('\\' :: 'u' :: controlDigits n) =
      [92, 117, 48, 48] ++ ([(n / 16).digitChar.toNat.toUInt8] ++
        [(n % 16).digitChar.toNat.toUInt8]) := by
    rw [← highByte, ← lowByte, ← Utf8.encode_append]
    rfl
  have value : n / 16 * 16 + n % 16 = n := by omega
  have noSurrogate : ¬ (0xD800 ≤ n ∧ n ≤ 0xDBFF) ∧
      ¬ (0xDC00 ≤ n ∧ n ≤ 0xDFFF) := by omega
  have closed : closeUnit read none n = some (.string (pushCode read n) .plain) := by
    simp only [closeUnit]
    rw [if_neg noSurrogate.1, if_neg noSurrogate.2]
  have opened : run ⟨tokens, .string read .plain⟩ [92, 117, 48, 48] =
      some ⟨tokens, .string read (.unit none 2 0)⟩ := rfl
  rw [bytes, run_append, opened, Option.bind_some]
  simp only [List.cons_append, List.nil_append, run, next, inside, high, low]
  simp [value, closed]

/-- **An escaped character is read as that character.** -/
theorem run_escape (c : Char) :
    run ⟨tokens, .string read .plain⟩ (Utf8.encode (escape c)) =
      some ⟨tokens, .string ((Utf8.encodeChar c).reverse ++ read) .plain⟩ := by
  by_cases special : c ∈ ['"', '\\', '\n', '\r', '\t', '\x08', '\x0c']
  · simp only [List.mem_cons, List.not_mem_nil, or_false] at special
    rcases special with rfl | rfl | rfl | rfl | rfl | rfl | rfl <;> rfl
  · simp only [List.mem_cons, List.not_mem_nil, or_false, not_or] at special
    obtain ⟨quote, slash, feed, back, tab, erase, page⟩ := special
    unfold escape
    rw [if_neg quote, if_neg slash, if_neg feed, if_neg back, if_neg tab, if_neg erase, if_neg page]
    split
    · rename_i control
      rw [run_controlDigits tokens read control, pushCode, Char.ofNat_toNat]
    · rename_i shown
      rw [Utf8.encode_cons, Utf8.encode_nil, List.append_nil]
      refine run_plain tokens read fun b member => ?_
      have code := Utf8.mem_encodeChar member
      have other (d : Char) (ascii : d.toNat < 0x80) (different : c ≠ d) :
          b.toNat ≠ d.toNat := by
        rcases code with same | ⟨beyond, -⟩
        · rw [same]
          exact fun equal => different (Char.toNat_inj.mp equal)
        · omega
      refine ⟨?_, ?_, by omega⟩
      · rintro rfl
        exact other '"' (by decide) quote rfl
      · rintro rfl
        exact other '\\' (by decide) slash rfl

theorem run_escapes (text : List Char) :
    run ⟨tokens, .string read .plain⟩ (Utf8.encode (text.flatMap escape)) =
      some ⟨tokens, .string ((Utf8.encode text).reverse ++ read) .plain⟩ := by
  induction text generalizing read with
  | nil => rfl
  | cons c rest ih =>
    rw [List.flatMap_cons, Utf8.encode_append, run_append, run_escape, Option.bind_some, ih,
      Utf8.encode_cons, List.reverse_append, List.append_assoc]

end

theorem lexes_writeString (text : String) :
    Lexes (Utf8.encode (writeString text)) [.string text] := by
  intro read
  refine ⟨⟨.string text :: read, .between⟩, ?_, holds_between _⟩
  have bytes : Utf8.encode (writeString text) =
      34 :: (Utf8.encode (text.toList.flatMap escape) ++ [34]) := by
    rw [writeString, Utf8.encode_append, Utf8.encode_cons]
    rfl
  have value : Utf8.string? ((Utf8.encode text.toList).reverse ++ []).reverse = some text := by
    rw [List.append_nil, List.reverse_reverse]
    exact Utf8.string?_bytes text
  have opened : (Lexer.mk read .between).next 34 = some ⟨read, .string [] .plain⟩ := rfl
  rw [bytes, run, opened]
  show run _ _ = _
  rw [run_append, run_escapes, Option.bind_some]
  simp only [run, next, inside, if_true, value, Option.map_some]

/-! ### Values -/

theorem lexes_elements {elements : List Json}
    (lexed : ∀ element ∈ elements, Lexes (writeBytes element) element.tokens) :
    Lexes (Utf8.encode (writeElements elements)) (elementTokens elements) := by
  induction elements with
  | nil => exact lexes_nil
  | cons element rest ih =>
    have first := lexed element List.mem_cons_self
    have others := ih fun other member => lexed other (List.mem_cons_of_mem _ member)
    cases rest with
    | nil => exact first
    | cons next rest =>
      rw [writeElements, Utf8.encode_append, Utf8.encode_cons]
      · exact first.append (Or.inl rfl) outside_comma others
      · simp

theorem lexes_members {members : List (String × Json)}
    (lexed : ∀ member ∈ members, Lexes (writeBytes member.2) member.2.tokens) :
    Lexes (Utf8.encode (writeMembers members)) (memberTokens members) := by
  induction members with
  | nil => exact lexes_nil
  | cons member rest ih =>
    obtain ⟨name, value⟩ := member
    have first : Lexes (Utf8.encode (writeString name ++ ':' :: write value))
        ([.string name] ++ .colon :: value.tokens) := by
      rw [Utf8.encode_append, Utf8.encode_cons]
      exact (lexes_writeString name).append (Or.inr (Or.inl rfl)) outside_colon
        (lexed _ List.mem_cons_self)
    have others := ih fun other member => lexed other (List.mem_cons_of_mem _ member)
    cases rest with
    | nil => exact first
    | cons next rest =>
      rw [writeMembers, Utf8.encode_append, Utf8.encode_cons]
      · exact first.append (Or.inl rfl) outside_comma others
      · simp

/-- **A written value is lexed.** -/
theorem lexes_write {room : Nat} {value : Json} (readable : Readable room value) :
    Lexes (writeBytes value) value.tokens := by
  induction readable with
  | null room => exact fun read => ⟨⟨read, .word _⟩, rfl, holds_word rfl read⟩
  | bool room value =>
    cases value with
    | false => exact fun read => ⟨⟨read, .word _⟩, rfl, holds_word rfl read⟩
    | true => exact fun read => ⟨⟨read, .word _⟩, rfl, holds_word rfl read⟩
  | integer room least most => exact lexes_numeral least most
  | real room => exact fun read => ⟨⟨read, .number _⟩, rfl, holds_number (by decide) read⟩
  | string room value => exact lexes_writeString value
  | array _ ih =>
    rw [writeBytes, write, Utf8.encode_append, Utf8.encode_cons]
    exact ((lexes_elements ih).append (Or.inr (Or.inr (Or.inl rfl))) (fun _ => rfl) lexes_nil).cons
      fun _ => rfl
  | object _ ih =>
    rw [writeBytes, write, Utf8.encode_append, Utf8.encode_cons]
    exact ((lexes_members ih).append (Or.inr (Or.inr (Or.inr rfl))) (fun _ => rfl) lexes_nil).cons
      fun _ => rfl

end Lexer

/-- **The tokens of a written value are those of the value.** -/
theorem tokens?_writeBytes {room : Nat} {value : Json} (readable : Readable room value) :
    tokens? (writeBytes value) = some value.tokens := by
  obtain ⟨lexer, run, holds⟩ := Lexer.lexes_write readable []
  rw [tokens?, run, Option.bind_some, holds.atEnd, List.append_nil, List.reverse_reverse]

end LaunchSupervisor.Json
