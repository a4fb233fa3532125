import LaunchSupervisor.Text.Blank

/-!
**Numbers at the start of a text.** `leadingInteger` reads blanks, a sign and as many digits as
there are, and holds at the greatest 64-bit value; `signed32?` accepts a text only if all of it is a
32-bit number.

* `leadingDigits_eq_min`: holding after each digit is the same as holding once at the end.
-/

namespace LaunchSupervisor.Text

/-- The greatest signed 64-bit number. -/
def maxInt64 : Nat := 9223372036854775807

/-- The value of a digit character. -/
def digitValue (c : Char) : Nat :=
  c.toNat - '0'.toNat

/-- The value of a row of digits that follow digits worth `value`. -/
def digitsValue (value : Nat) (digits : List Char) : Nat :=
  digits.foldl (fun n c => n * 10 + digitValue c) value

/-- The value of the digits a text starts with, held at the greatest 64-bit number. -/
def leadingDigits (text : List Char) : Nat :=
  (text.takeWhile Char.isDigit).foldl (fun n c => min (n * 10 + digitValue c) maxInt64) 0

/-- The number a text starts with, after blanks: a sign and digits, zero when there are none. -/
def leadingInteger (text : List Char) : Int :=
  match trimStart text with
  | '-' :: digits => -(leadingDigits digits : Int)
  | '+' :: digits => leadingDigits digits
  | digits => leadingDigits digits

/-- The 32-bit number congruent to `n`. -/
def wrap32 (n : Int) : Int32 :=
  Int32.ofInt n

/-- A text of nothing but digits, at least one, as a number. -/
def natural? (text : List Char) : Option Nat :=
  if !text.isEmpty && text.all Char.isDigit then some (digitsValue 0 text) else none

/-- A text that is a number, with or without a sign. -/
def integer? : List Char → Option Int
  | '-' :: digits => (natural? digits).map fun n => -(n : Int)
  | '+' :: digits => (natural? digits).map fun n => (n : Int)
  | digits => (natural? digits).map fun n => (n : Int)

/-- A text that is a number of 32 bits. -/
def signed32? (text : List Char) : Option Int :=
  (integer? text).filter fun n => -2147483648 ≤ n && n ≤ 2147483647

/-! ### Holding at the greatest number -/

theorem min_digit_step (n bound d : Nat) (_large : 0 < bound) :
    min (min n bound * 10 + d) bound = min (n * 10 + d) bound := by
  omega

theorem leadingDigits_eq_min (text : List Char) :
    leadingDigits text = min (digitsValue 0 (text.takeWhile Char.isDigit)) maxInt64 := by
  have held : ∀ (digits : List Char) (n : Nat),
      digits.foldl (fun n c => min (n * 10 + digitValue c) maxInt64) (min n maxInt64) =
        min (digitsValue n digits) maxInt64 := by
    intro digits
    induction digits with
    | nil => intro n; rfl
    | cons c rest ih =>
      intro n
      simp only [List.foldl_cons, digitsValue]
      rw [min_digit_step n maxInt64 (digitValue c) (by decide)]
      exact ih _
  exact held _ 0

end LaunchSupervisor.Text
