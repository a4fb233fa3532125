/-!
**How large a number may be.** A number is held as the digits that fit in 64 bits, times a power of
ten. Each of the two is rounded to 53 significant bits and so is their product, as double precision
does it; a number whose product is beyond the finite ones is refused.

* `nearest_of_lt`: a number of at most 53 bits is rounded to itself.
-/

namespace LaunchSupervisor.Json

/-- The least number that 64 bits do not hold. -/
def wordBound : Nat := Nat.pow 2 64

/-- The least number that rounds beyond the greatest finite number of double precision. -/
def finiteBound : Nat := Nat.pow 2 1024 - Nat.pow 2 970

/-- The greatest power of ten of double precision. -/
def greatestExponent : Int := 308

/-- The value of a digit. -/
def digitValue (digit : UInt8) : Nat :=
  digit.toNat - 48

/-- The value of a row of digits. -/
def digitsValue (digits : List UInt8) : Nat :=
  digits.foldl (fun n digit => n * 10 + digitValue digit) 0

/-- Takes digits into a number as long as 64 bits hold it, and gives the digits left over. -/
def takeDigits (value : Nat) : List UInt8 → Nat × List UInt8
  | [] => (value, [])
  | digit :: rest =>
    if value * 10 + digitValue digit < wordBound then
      takeDigits (value * 10 + digitValue digit) rest
    else (value, digit :: rest)

/-- A number as digits times a power of ten. -/
structure Scaled where
  digits : Nat
  exponent : Int
deriving DecidableEq

namespace Scaled

/-- The number with the given digits before and after the point and the given exponent. Whole digits
left over count in the exponent, those of the fraction do not. -/
def ofParts (whole fraction : List UInt8) (exponent : Int) : Scaled :=
  let (start, dropped) := takeDigits 0 whole
  let (digits, ignored) := takeDigits start fraction
  { digits, exponent := exponent + dropped.length - fraction.length + ignored.length }

/-- The nearest number of at most 53 significant bits, and of two the one with an even count. -/
def nearest (n : Nat) : Nat :=
  let unit := Nat.pow 2 (n.log2 - 52)
  let count := n / unit
  let rest := n % unit
  if unit < 2 * rest ∨ 2 * rest = unit ∧ count % 2 = 1 then (count + 1) * unit else count * unit

/-- Whether a number is among the finite ones of double precision. -/
def isFinite (number : Scaled) : Bool :=
  number.digits == 0 || number.exponent < 0 ||
    number.exponent ≤ greatestExponent &&
      nearest number.digits * nearest (Nat.pow 10 number.exponent.toNat) < finiteBound

/-! ### Small facts -/

theorem nearest_of_lt {n : Nat} (small : n < Nat.pow 2 53) : nearest n = n := by
  have unit : n.log2 - 52 = 0 := by
    rcases Nat.eq_zero_or_pos n with zero | positive
    · subst zero
      rfl
    · have := (Nat.log2_lt (Nat.ne_of_gt positive)).mpr small
      omega
  simp [nearest, unit, Nat.mod_one]

end Scaled

end LaunchSupervisor.Json
