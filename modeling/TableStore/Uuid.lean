import TableStore.Text.Hex

/-!
# Unique names

A number of 128 bits, written in lower-case hexadecimal digits as five groups of 8, 4, 4, 4 and 12
digits with hyphens between them.  Such a text has 36 characters.
-/

namespace TableStore

/-- A number that tells one temporary file from all others. -/
structure Uuid where
  bits : BitVec 128
  deriving DecidableEq, Repr

namespace Uuid

/-- The digits of a number in groups of the given widths, the last group last. -/
def groups (n : Nat) : List Nat → List (List Char)
  | [] => []
  | width :: widths => Text.hexDigits width (n / Nat.pow 16 widths.sum) :: groups n widths

/-- The written form of a number. -/
def text (id : Uuid) : String :=
  String.ofList ("-".toList.intercalate (groups id.bits.toNat [8, 4, 4, 4, 12]))

end Uuid

end TableStore
