import TableStore.Text.Decimal

/-!
# Sizes of written numbers

Whether a number written with digits and an exponent is beyond the range of double-precision
numbers.  There are two ways to decide it.

* `exceedsDouble` takes the number exactly as it is written.
* `Scaled.exceedsDouble` takes a short form of the number, which keeps as many of its digits as 64
  bits can hold, and multiplies it by a power of ten, both rounded to double precision before.
  Close to the end of the range the two can differ.
-/

namespace TableStore.Text

/-- The least number that is rounded beyond the range of double-precision numbers. -/
def doubleLimit : Nat := Nat.pow 2 1024 - Nat.pow 2 970

/-- Whether `digits`, read as one number and multiplied by ten to the power `exponent`, is beyond
the range of double-precision numbers.  Numbers whose size alone decides are not worked out. -/
def exceedsDouble (digits : List Char) (exponent : Int) : Bool :=
  let significant := digits.dropWhile (· = '0')
  let size := significant.length + exponent
  let value := (readDigits 0 significant).getD 0
  if significant = [] ∨ size < 300 then false
  else if 320 < size then true
  else if 0 ≤ exponent then doubleLimit ≤ value * Nat.pow 10 exponent.toNat
  else doubleLimit * Nat.pow 10 (-exponent).toNat ≤ value

/-! ## Rounding -/

/-- The number of binary digits that double precision keeps. -/
def doubleDigits : Nat := 53

/-- A number rounded to its first `count` binary digits.  A number halfway between two goes to the
one whose last digit is even. -/
def roundBinary (count n : Nat) : Nat :=
  let unit := Nat.pow 2 (n.log2 + 1 - count)
  let quotient := n / unit
  let rest := n % unit
  if 2 * rest < unit ∨ (2 * rest = unit ∧ quotient % 2 = 0) then quotient * unit
  else (quotient + 1) * unit

/-! ## Short forms -/

/-- The number `significand * 10 ^ exponent`. -/
structure Scaled where
  significand : Nat
  exponent : Int
  deriving DecidableEq, Repr

/-- Appends digits to a number until it would need more than 64 bits.  Answers the number and the
digits that are left. -/
def appendDigits (n : Nat) : List Char → Nat × List Char
  | [] => (n, [])
  | c :: cs =>
    let next := 10 * n + (digit? c).getD 0
    if next < nat64Limit then appendDigits next cs else (n, c :: cs)

namespace Scaled

/-- The short form of a number with the given digits before and behind the point, and exponent.
Digits that do not fit count as zeros before the point, and not at all behind it. -/
def ofDigits (whole fraction : List Char) (exponent : Int) : Scaled :=
  let (front, dropped) := appendDigits 0 whole
  let (significand, ignored) := appendDigits front fraction
  let places : Int := fraction.length - ignored.length
  ⟨significand, exponent + dropped.length - places⟩

/-- The greatest power of ten among the double-precision numbers. -/
def maxPower : Int := 308

/-- Whether the product of significand and power, each of them rounded, is beyond the range of
double-precision numbers.  A number with a negative exponent never is. -/
def exceedsDouble (number : Scaled) : Bool :=
  if number.significand = 0 ∨ number.exponent < 0 then false
  else if maxPower < number.exponent then true
  else
    let power := roundBinary doubleDigits (Nat.pow 10 number.exponent.toNat)
    doubleLimit ≤ roundBinary doubleDigits number.significand * power

end Scaled

end TableStore.Text
