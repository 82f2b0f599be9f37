/-!
# White space

The characters with the Unicode property `White_Space`, and what remains of a text when such
characters are taken off both of its ends.
-/

namespace TableStore.Text

/-- The ranges of the property `White_Space`, each with its first and last code point. -/
def blankRanges : List (Nat × Nat) :=
  [(0x9, 0xd), (0x20, 0x20), (0x85, 0x85), (0xa0, 0xa0), (0x1680, 0x1680), (0x2000, 0x200a),
    (0x2028, 0x2029), (0x202f, 0x202f), (0x205f, 0x205f), (0x3000, 0x3000)]

/-- Whether a character has the property `White_Space`. -/
def isBlank (c : Char) : Bool :=
  blankRanges.any fun range => range.1 ≤ c.toNat && c.toNat ≤ range.2

/-- The characters between the first and the last one for which `p` fails. -/
def trimWhile (p : Char → Bool) (cs : List Char) : List Char :=
  ((cs.dropWhile p).reverse.dropWhile p).reverse

/-- The text without the white space around it. -/
def trim (cs : List Char) : List Char := trimWhile isBlank cs

end TableStore.Text
