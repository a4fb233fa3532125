import LaunchSupervisor.Text.Number

/-!
**Numerals.** A numeral has digits alone, behind a sign or none. The one that is written for a
number has a minus sign if the number is below zero and no sign otherwise; so it is read to its end,
and what it is worth is the number as long as that is within the bounds of 64 bits.

* `signed32?_eq_some_iff`: which texts are numbers of 32 bits.
* `toString_of_nonneg`, `toString_of_neg`: what a numeral that is written consists of.
* `leadingInteger_toString`: a number of 64 bits is read back from its numeral.
-/

namespace LaunchSupervisor.Text

/-! ### Texts that are numbers -/

/-- **A numeral of a number**: digits, at least one, behind a sign or none. -/
inductive Numeral : List Char → Int → Prop where
  | plain {digits : List Char} (filled : digits ≠ []) (all : ∀ c ∈ digits, c.isDigit) :
    Numeral digits (digitsValue 0 digits)
  | plus {digits : List Char} (filled : digits ≠ []) (all : ∀ c ∈ digits, c.isDigit) :
    Numeral ('+' :: digits) (digitsValue 0 digits)
  | minus {digits : List Char} (filled : digits ≠ []) (all : ∀ c ∈ digits, c.isDigit) :
    Numeral ('-' :: digits) (-(digitsValue 0 digits : Int))

/-- When digits are a number, and what that is once a sign has been taken in. -/
theorem map_natural?_eq_some_iff (digits : List Char) (signed : Nat → Int) (n : Int) :
    (natural? digits).map signed = some n ↔
      digits ≠ [] ∧ (∀ c ∈ digits, c.isDigit) ∧ signed (digitsValue 0 digits) = n := by
  simp [natural?, and_assoc]

theorem integer?_minus (digits : List Char) :
    integer? ('-' :: digits) = (natural? digits).map fun n => -Int.ofNat n := by
  cases whole : natural? digits <;> simp [integer?, whole]

theorem integer?_plus (digits : List Char) :
    integer? ('+' :: digits) = (natural? digits).map Int.ofNat := by
  cases whole : natural? digits <;> simp [integer?, whole]

theorem integer?_unsigned {text : List Char} (minus : ∀ digits, text ≠ '-' :: digits)
    (plus : ∀ digits, text ≠ '+' :: digits) :
    integer? text = (natural? text).map Int.ofNat := by
  cases whole : natural? text <;> simp [integer?, whole]

theorem integer?_eq_some_iff (text : List Char) (n : Int) :
    integer? text = some n ↔ Numeral text n := by
  constructor
  · intro read
    by_cases minus : ∃ digits, text = '-' :: digits
    · obtain ⟨digits, rfl⟩ := minus
      rw [integer?_minus, map_natural?_eq_some_iff] at read
      obtain ⟨filled, all, rfl⟩ := read
      exact .minus filled all
    by_cases plus : ∃ digits, text = '+' :: digits
    · obtain ⟨digits, rfl⟩ := plus
      rw [integer?_plus, map_natural?_eq_some_iff] at read
      obtain ⟨filled, all, rfl⟩ := read
      exact .plus filled all
    · rw [integer?_unsigned (not_exists.mp minus) (not_exists.mp plus),
        map_natural?_eq_some_iff] at read
      obtain ⟨filled, all, rfl⟩ := read
      exact .plain filled all
  · intro numeral
    cases numeral with
    | minus filled all =>
      rw [integer?_minus]
      exact (map_natural?_eq_some_iff ..).mpr ⟨filled, all, rfl⟩
    | plus filled all =>
      rw [integer?_plus]
      exact (map_natural?_eq_some_iff ..).mpr ⟨filled, all, rfl⟩
    | plain filled all =>
      -- A sign is no digit, so the text starts with none.
      have unsigned (c : Char) (noDigit : c.isDigit = false) (digits : List Char) :
          text ≠ c :: digits := by
        rintro rfl
        exact absurd (all c List.mem_cons_self) (by simp [noDigit])
      rw [integer?_unsigned (unsigned '-' rfl) (unsigned '+' rfl)]
      exact (map_natural?_eq_some_iff ..).mpr ⟨filled, all, rfl⟩

/-- **Which texts are numbers of 32 bits.** -/
theorem signed32?_eq_some_iff (text : List Char) (n : Int) :
    signed32? text = some n ↔ Numeral text n ∧ -2147483648 ≤ n ∧ n ≤ 2147483647 := by
  simp [signed32?, Option.filter_eq_some_iff, integer?_eq_some_iff]

/-! ### Digits -/

theorem isBlank_of_isDigit {c : Char} (digit : c.isDigit) : isBlank c = false := by
  simp only [Char.isDigit, Bool.and_eq_true, decide_eq_true_eq, ge_iff_le, UInt32.le_iff_toNat_le]
    at digit
  have least : 48 ≤ c.toNat := digit.1
  have most : c.toNat ≤ 57 := digit.2
  simp [isBlank]
  omega

theorem digitsValue_toDigits (n : Nat) : digitsValue 0 (Nat.toDigits 10 n) = n := by
  have same : digitsValue 0 (Nat.toDigits 10 n) = Nat.ofDigitChars 10 (Nat.toDigits 10 n) 0 := by
    simp only [digitsValue, Nat.ofDigitChars, Nat.mul_comm, digitValue]
  rw [same, Nat.ofDigitChars_toDigits (by decide) (by decide)]

theorem isDigit_of_mem_toDigits {n : Nat} {c : Char} (member : c ∈ Nat.toDigits 10 n) :
    c.isDigit :=
  Nat.isDigit_of_mem_toDigits (by decide) (by decide) member

/-- The digits of a number within bounds are worth the number. -/
theorem leadingDigits_toDigits {n : Nat} (bounded : n ≤ maxInt64) :
    leadingDigits (Nat.toDigits 10 n) = n := by
  have all : (Nat.toDigits 10 n).takeWhile Char.isDigit = Nat.toDigits 10 n := by
    simpa using @List.takeWhile_append_of_pos _ Char.isDigit _ [] fun c member =>
      isDigit_of_mem_toDigits (n := n) member
  rw [leadingDigits_eq_min, all, digitsValue_toDigits, Nat.min_eq_left bounded]

/-- A text that starts with a digit has neither blanks nor a sign before it. -/
theorem leadingInteger_of_isDigit {c : Char} (digit : c.isDigit) (rest : List Char) :
    leadingInteger (c :: rest) = leadingDigits (c :: rest) := by
  have start : trimStart (c :: rest) = c :: rest := by
    simp [trimStart, isBlank_of_isDigit digit]
  unfold leadingInteger
  rw [start]
  split
  · rename_i minus
    cases minus
    cases digit
  · rename_i plus
    cases plus
    cases digit
  · rfl

theorem leadingInteger_toDigits (n : Nat) :
    leadingInteger (Nat.toDigits 10 n) = leadingDigits (Nat.toDigits 10 n) := by
  obtain ⟨c, rest, digits⟩ :=
    List.exists_cons_of_ne_nil (Nat.toDigits_ne_nil (n := n) (b := 10))
  have member : c ∈ Nat.toDigits 10 n := digits ▸ List.mem_cons_self
  rw [digits, leadingInteger_of_isDigit (isDigit_of_mem_toDigits member)]

theorem leadingInteger_minus (digits : List Char) :
    leadingInteger ('-' :: digits) = -(leadingDigits digits : Int) := rfl

theorem toString_of_nonneg {n : Int} (whole : 0 ≤ n) :
    (toString n).toList = Nat.toDigits 10 n.toNat := by
  rw [Int.toString_eq_repr, Int.repr_eq_if, if_pos whole, Nat.toList_repr]

theorem toString_of_neg {n : Int} (negative : n < 0) :
    (toString n).toList = '-' :: Nat.toDigits 10 (-n).toNat := by
  rw [Int.toString_eq_repr, Int.repr_eq_if, if_neg (by omega), String.toList_append,
    Nat.toList_repr]
  rfl

/-- **A number of 64 bits is read back from its numeral.** -/
theorem leadingInteger_toString {n : Int} (bounded : n.natAbs ≤ maxInt64) :
    leadingInteger (toString n).toList = n := by
  by_cases whole : 0 ≤ n
  · rw [toString_of_nonneg whole, leadingInteger_toDigits, leadingDigits_toDigits (by omega)]
    omega
  · rw [toString_of_neg (by omega), leadingInteger_minus, leadingDigits_toDigits (by omega)]
    omega

theorem underscore_not_mem_toString (n : Int) : '_' ∉ (toString n).toList := by
  have digits (m : Nat) : '_' ∉ Nat.toDigits 10 m := fun member =>
    absurd (isDigit_of_mem_toDigits member) (by decide)
  by_cases whole : 0 ≤ n
  · rw [toString_of_nonneg whole]
    exact digits _
  · rw [toString_of_neg (by omega), List.mem_cons, not_or]
    exact ⟨by decide, digits _⟩

end LaunchSupervisor.Text
