/-!
# Decimal numbers

Reading of whole numbers written with ASCII digits.  A sign may stand in front where a signed
number is read; nothing else may.  Leading zeros are allowed.
-/

namespace TableStore.Text

/-- The value of an ASCII digit. -/
def digit? (c : Char) : Option Nat :=
  if '0' ≤ c ∧ c ≤ '9' then some (c.toNat - '0'.toNat) else none

/-- The number that the digits `cs` denote after those that denote `acc`. -/
def readDigits (acc : Nat) : List Char → Option Nat
  | [] => some acc
  | c :: cs => (digit? c).bind fun d => readDigits (10 * acc + d) cs

/-- The number that one or more ASCII digits denote. -/
def readNat : List Char → Option Nat
  | [] => none
  | cs => readDigits 0 cs

/-- The integer that an optional sign and one or more ASCII digits denote. -/
def readInt : List Char → Option Int
  | '+' :: cs => (readNat cs).map Int.ofNat
  | '-' :: cs => (readNat cs).map fun n => -Int.ofNat n
  | cs => (readNat cs).map Int.ofNat

/-- The number of values of 63 bits. -/
def int64Limit : Nat := 9223372036854775808

/-- The number of values of 64 bits. -/
def nat64Limit : Nat := 18446744073709551616

/-- The integers of 64 bits with a sign. -/
def inInt64 (n : Int) : Bool := -(int64Limit : Int) ≤ n && n < int64Limit

/-- Like `readInt`, for integers that fit into 64 bits only. -/
def readInt64 (cs : List Char) : Option Int := (readInt cs).filter inInt64

end TableStore.Text
