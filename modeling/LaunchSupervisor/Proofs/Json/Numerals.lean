import LaunchSupervisor.Json.Lexer
import LaunchSupervisor.Proofs.Text.Decoding
import LaunchSupervisor.Proofs.Text.Numerals

/-!
**A number is read back from its digits.** The digits of a number have no leading zero, are worth
the number, and fit in 64 bits if the number does, so that its magnitude is finite and it is taken
for the integer it is.

* `number?_numeral`: for every integer from -2^63 up to 2^64.
-/

namespace LaunchSupervisor.Json

/-- The digits of a number as bytes. -/
def decimal (n : Nat) : List UInt8 :=
  Utf8.encode (Nat.toDigits 10 n)

/-- The written form of an integer as bytes. -/
def numeral (value : Int) : List UInt8 :=
  Utf8.encode (toString value).toList

/-- The byte of a digit. -/
def digitByte (d : Nat) : UInt8 :=
  (48 + d).toUInt8

/-! ### One digit -/

section

variable {d : Nat} (digit : d < 10)

include digit

theorem encode_digitChar : Utf8.encode [d.digitChar] = [digitByte d] := by
  have code := Nat.toNat_digitChar_of_lt_ten digit
  rw [Utf8.encode_cons, Utf8.encodeChar_ascii (by omega), code]
  rfl

theorem toNat_digitByte : (digitByte d).toNat = 48 + d :=
  Utf8.toNat_toUInt8 (by omega)

theorem isDigit_digitByte : Lexer.isDigit (digitByte d) := by
  have code := toNat_digitByte digit
  simp only [Lexer.isDigit, Bool.and_eq_true, decide_eq_true_eq, UInt8.le_iff_toNat_le, code,
    UInt8.reduceToNat]
  omega

theorem digitValue_digitByte : digitValue (digitByte d) = d := by
  rw [digitValue, toNat_digitByte digit]
  omega

theorem decimal_of_lt : decimal d = [digitByte d] := by
  rw [decimal, Nat.toDigits_of_lt_base digit, encode_digitChar digit]

theorem decimal_digit {n : Nat} (positive : 0 < n) :
    decimal (10 * n + d) = decimal n ++ [digitByte d] := by
  rw [decimal, ← Nat.toDigits_append_toDigits (by decide) positive digit, Utf8.encode_append,
    Nat.toDigits_of_lt_base digit, encode_digitChar digit, decimal]

end

/-! ### All digits -/

/-- The digits of a number, from the first on: a property of those of one digit that one more digit
keeps holds of all. -/
theorem decimal_induction {motive : Nat → Prop} (n : Nat) (single : ∀ d < 10, motive d)
    (more : ∀ m d, d < 10 → 0 < m → motive m → motive (10 * m + d)) : motive n :=
  Nat.base_induction 10 (by decide) single more

theorem all_isDigit_decimal (n : Nat) : (decimal n).all Lexer.isDigit := by
  induction n using decimal_induction with
  | single d digit => rw [decimal_of_lt digit, List.all_cons, isDigit_digitByte digit]; rfl
  | more m d digit positive ih =>
    rw [decimal_digit digit positive, List.all_append, ih, List.all_cons, isDigit_digitByte digit]
    rfl

theorem decimal_ne_nil (n : Nat) : decimal n ≠ [] := by
  induction n using decimal_induction with
  | single d digit => simp [decimal_of_lt digit]
  | more m d digit positive ih => simp [decimal_digit digit positive]

/-- No zero leads. -/
theorem head?_decimal {n : Nat} (positive : 0 < n) : (decimal n).head? ≠ some 48 := by
  induction n using decimal_induction with
  | single d digit =>
    rw [decimal_of_lt digit, List.head?_cons]
    intro zero
    have code := toNat_digitByte digit
    rw [Option.some.inj zero] at code
    simp only [UInt8.reduceToNat] at code
    omega
  | more m d digit still ih =>
    obtain ⟨first, rest, digits⟩ := List.exists_cons_of_ne_nil (decimal_ne_nil m)
    have kept := ih still
    rw [digits] at kept
    rw [decimal_digit digit still, digits]
    exact kept

theorem digitsValue_decimal (n : Nat) : digitsValue (decimal n) = n := by
  induction n using decimal_induction with
  | single d digit =>
    rw [decimal_of_lt digit]
    simp [digitsValue, digitValue_digitByte digit]
  | more m d digit positive ih =>
    rw [digitsValue] at ih
    rw [decimal_digit digit positive, digitsValue, List.foldl_append, ih]
    simp only [List.foldl_cons, List.foldl_nil, digitValue_digitByte digit]
    omega

/-- The digits of a number of 64 bits are all taken in. -/
theorem takeDigits_decimal {n : Nat} (bits : n < wordBound) :
    takeDigits 0 (decimal n) = (n, []) := by
  have taken (start value : Nat) (first rest : List UInt8)
      (all : takeDigits start first = (value, [])) :
      takeDigits start (first ++ rest) = takeDigits value rest := by
    induction first generalizing start with
    | nil =>
      cases all
      rfl
    | cons byte others ih =>
      simp only [List.cons_append, takeDigits] at all ⊢
      split at all
      · rename_i fits
        rw [if_pos fits]
        exact ih _ all
      · cases all
  induction n using decimal_induction with
  | single d digit =>
    rw [decimal_of_lt digit]
    simp [takeDigits, digitValue_digitByte digit, bits]
  | more m d digit positive ih =>
    rw [decimal_digit digit positive, taken _ _ _ _ (ih (by omega))]
    have value : m * 10 + d = 10 * m + d := by omega
    simp [takeDigits, digitValue_digitByte digit, value, bits]

/-! ### The magnitude -/

theorem nearest_le (n : Nat) : Scaled.nearest n ≤ n + Nat.pow 2 (n.log2 - 52) := by
  unfold Scaled.nearest
  have whole := Nat.div_add_mod n (Nat.pow 2 (n.log2 - 52))
  rw [Nat.mul_comm] at whole
  dsimp only
  split
  · rw [Nat.add_mul]
    omega
  · omega

theorem isFinite_of_lt {n : Nat} (bits : n < wordBound) : Scaled.isFinite ⟨n, 0⟩ := by
  have unit : Nat.pow 2 (n.log2 - 52) ≤ wordBound := by
    refine Nat.pow_le_pow_right (by decide) ?_
    rcases Nat.eq_zero_or_pos n with zero | positive
    · rw [zero]
      decide
    · have := (Nat.log2_lt (Nat.ne_of_gt positive)).mpr bits
      omega
  have bound := nearest_le n
  have one : Scaled.nearest (Nat.pow 10 0) = 1 := by decide
  have room : wordBound + wordBound ≤ finiteBound := by decide +kernel
  simp only [Scaled.isFinite, Bool.or_eq_true, Bool.and_eq_true, decide_eq_true_eq, Int.toNat_zero,
    one, Nat.mul_one]
  refine Or.inr ⟨by decide, ?_⟩
  omega

/-! ### The token -/

namespace Lexer

theorem real?_decimal {n : Nat} (bits : n < wordBound) : real? (decimal n) [] 0 = some .real := by
  have parts : Scaled.ofParts (decimal n) [] 0 = ⟨n, 0⟩ := by
    simp [Scaled.ofParts, takeDigits_decimal bits, takeDigits]
  rw [real?, parts, if_pos (isFinite_of_lt bits)]

theorem unsigned?_decimal {n : Nat} (bits : n < wordBound) (negative : Bool) :
    unsigned? negative (decimal n) = some (wholeNumber negative n) := by
  have digits := List.all_eq_true.mp (all_isDigit_decimal n)
  have taken : (decimal n).takeWhile isDigit = decimal n := by
    simpa using @List.takeWhile_append_of_pos _ isDigit _ [] digits
  have nothing : (decimal n).dropWhile isDigit = [] := by
    simpa using @List.dropWhile_append_of_pos _ isDigit _ [] digits
  have filled : (decimal n).isEmpty = false := by
    simpa [List.isEmpty_eq_false_iff] using decimal_ne_nil n
  have unpadded : ((decimal n).length == 1 || (decimal n).head? != some 48) = true := by
    rcases Nat.eq_zero_or_pos n with zero | positive
    · rw [zero, decimal_of_lt (by decide)]
      rfl
    · rw [bne_iff_ne.mpr (head?_decimal positive), Bool.or_true]
  simp only [unsigned?, taken, nothing, filled, unpadded, real?_decimal bits, digitsValue_decimal]
  rfl

/-- A text that starts with a digit has no sign. -/
theorem number?_of_isDigit {first : UInt8} {rest : List UInt8} (digit : isDigit first) :
    number? (first :: rest) = unsigned? false (first :: rest) := by
  unfold number?
  split
  · rename_i minus
    cases minus
    cases digit
  · rfl

theorem number?_decimal {n : Nat} (bits : n < wordBound) :
    number? (decimal n) = some (.integer n) := by
  have all := all_isDigit_decimal n
  have read := unsigned?_decimal bits false
  obtain ⟨first, rest, digits⟩ := List.exists_cons_of_ne_nil (decimal_ne_nil n)
  rw [digits] at all read ⊢
  rw [List.all_cons, Bool.and_eq_true] at all
  rw [number?_of_isDigit all.1, read]
  simp [wholeNumber, bits]

end Lexer

theorem numeral_of_nonneg {value : Int} (whole : 0 ≤ value) :
    numeral value = decimal value.toNat := by
  rw [numeral, Text.toString_of_nonneg whole, decimal]

theorem numeral_of_neg {value : Int} (negative : value < 0) :
    numeral value = 45 :: decimal (-value).toNat := by
  rw [numeral, Text.toString_of_neg negative, ← List.singleton_append,
    Utf8.encode_append, decimal]
  rfl

/-- **An integer of 64 bits is read back from its numeral.** -/
theorem number?_numeral {value : Int} (least : -9223372036854775808 ≤ value)
    (most : value < 18446744073709551616) :
    Lexer.number? (numeral value) = some (.integer value) := by
  have bound : wordBound = 18446744073709551616 := by decide
  by_cases whole : 0 ≤ value
  · rw [numeral_of_nonneg whole, Lexer.number?_decimal (by omega), Int.toNat_of_nonneg whole]
  · have magnitude : ((-value).toNat : Int) = -value := Int.toNat_of_nonneg (by omega)
    have kept : ¬ ((-value).toNat = 0 ∨ 9223372036854775808 < (-value).toNat) := by omega
    rw [numeral_of_neg (by omega)]
    show Lexer.unsigned? true (decimal (-value).toNat) = some (.integer value)
    rw [Lexer.unsigned?_decimal (by omega), Lexer.wholeNumber, if_pos rfl, if_neg kept, magnitude,
      Int.neg_neg]

end LaunchSupervisor.Json
