import TableStore.Json.Document
import TableStore.Text.Hex
import TableStore.Text.Magnitude

/-!
# Tokens of a text

The brackets, separators, words, numbers and strings of a text in their order, without the white
space between them.  Whatever is none of these becomes the token `invalid`, and the tokens end
there: no reader goes on behind it.
-/

namespace TableStore.Json

/-- A part of a text. -/
inductive Token
  | openList
  | closeList
  | openObject
  | closeObject
  | comma
  | colon
  | null
  | bool (value : Bool)
  | number (value : Numeral)
  | text (value : Option String)
  | invalid
  deriving Repr

/-! ## Strings -/

/-- The number that four hexadecimal digits write. -/
def unit? (a b c d : Char) : Option Nat := Text.readInBase? 16 [a, b, c, d]

/-- The character that a letter behind a backslash means. -/
def simpleEscape? : Char → Option Char
  | '"' => some '"'
  | '\\' => some '\\'
  | '/' => some '/'
  | 'b' => some '\x08'
  | 'f' => some '\x0c'
  | 'n' => some '\n'
  | 'r' => some '\r'
  | 't' => some '\t'
  | _ => none

/-- Whether a number is the first half of a surrogate pair. -/
def isHighSurrogate (n : Nat) : Bool := 0xd800 ≤ n && n < 0xdc00

/-- Whether a number is the second half of a surrogate pair. -/
def isLowSurrogate (n : Nat) : Bool := 0xdc00 ≤ n && n < 0xe000

/-- The text that ends at the next quote, and what follows it.  `seen` holds its characters so
far, the last one first, or nothing if half of a surrogate pair was among them.  `high` is the
first half of a pair that the escape just before has written. -/
def scanText (seen : Option (List Char)) (high : Option Nat) :
    List Char → Option (Option String × List Char)
  | [] => none
  | '"' :: rest =>
    let seen := if high.isSome then none else seen
    some (seen.map fun cs => String.ofList cs.reverse, rest)
  | '\\' :: 'u' :: a :: b :: c :: d :: rest =>
    match unit? a b c d with
    | none => none
    | some n =>
      match high with
      | some h =>
        if isLowSurrogate n then
          let code := 0x10000 + (h - 0xd800) * 0x400 + (n - 0xdc00)
          scanText (seen.map (Char.ofNat code :: ·)) none rest
        else scanText none none rest
      | none =>
        if isHighSurrogate n then scanText seen (some n) rest
        else if isLowSurrogate n then scanText none none rest
        else scanText (seen.map (Char.ofNat n :: ·)) none rest
  | '\\' :: c :: rest =>
    match simpleEscape? c with
    | none => none
    | some c => scanText (if high.isSome then none else seen.map (c :: ·)) none rest
  | c :: rest =>
    if c = '\\' ∨ c.toNat < 0x20 then none
    else scanText (if high.isSome then none else seen.map (c :: ·)) none rest

/-! ## Numbers -/

/-- The number with the given sign, digits before and behind the point, and exponent. -/
def numeral (negative : Bool) (whole : List Char) (fraction : Option (List Char))
    (exponent : Option Int) : Numeral :=
  let value := (Text.readDigits 0 whole).getD 0
  if !negative && fraction.isNone && exponent.isNone && value < Text.nat64Limit then .natural value
  else
    let number := Text.Scaled.ofDigits whole (fraction.getD []) (exponent.getD 0)
    if number.exceedsDouble then .outOfRange else .inexact

/-- The digits that a text begins with, and what follows them. -/
def spanDigits (cs : List Char) : List Char × List Char :=
  cs.span fun c => (Text.digit? c).isSome

/-- The fraction that a text begins with, if it begins with one.  Fails at a point without
digits. -/
def scanFraction : List Char → Option (Option (List Char) × List Char)
  | '.' :: rest =>
    match spanDigits rest with
    | ([], _) => none
    | (digits, rest) => some (some digits, rest)
  | rest => some (none, rest)

/-- The exponent that a text begins with, if it begins with one.  Fails at an exponent without
digits. -/
def scanExponent : List Char → Option (Option Int × List Char)
  | c :: rest =>
    if c = 'e' ∨ c = 'E' then
      let (sign, rest) : Int × List Char :=
        match rest with
        | '+' :: rest => (1, rest)
        | '-' :: rest => (-1, rest)
        | rest => (1, rest)
      match spanDigits rest with
      | ([], _) => none
      | (digits, rest) => some (some (sign * (Text.readDigits 0 digits).getD 0), rest)
    else some (none, c :: rest)
  | [] => some (none, [])

/-- The number that a text begins with, after its sign, and what follows it. -/
def scanNumber (negative : Bool) (cs : List Char) : Option (Numeral × List Char) :=
  match spanDigits cs with
  | ([], _) => none
  | ('0' :: _ :: _, _) => none
  | (whole, rest) => do
    let (fraction, rest) ← scanFraction rest
    let (exponent, rest) ← scanExponent rest
    return (numeral negative whole fraction exponent, rest)

/-! ## All tokens -/

/-- White space between tokens. -/
def isSpace (c : Char) : Bool := c = ' ' || c = '\n' || c = '\r' || c = '\t'

/-- The first token of a text that does not begin with white space, and what follows it. -/
def scanToken : List Char → Option (Token × List Char)
  | '[' :: rest => some (.openList, rest)
  | ']' :: rest => some (.closeList, rest)
  | '\x7b' :: rest => some (.openObject, rest)
  | '\x7d' :: rest => some (.closeObject, rest)
  | ',' :: rest => some (.comma, rest)
  | ':' :: rest => some (.colon, rest)
  | 'n' :: 'u' :: 'l' :: 'l' :: rest => some (.null, rest)
  | 't' :: 'r' :: 'u' :: 'e' :: rest => some (.bool true, rest)
  | 'f' :: 'a' :: 'l' :: 's' :: 'e' :: rest => some (.bool false, rest)
  | '"' :: rest => (scanText (some []) none rest).map fun found => (.text found.1, found.2)
  | '-' :: rest => (scanNumber true rest).map fun found => (.number found.1, found.2)
  | rest => (scanNumber false rest).map fun found => (.number found.1, found.2)

/-- The first `fuel` tokens of a text. -/
def scanTokens : Nat → List Char → List Token
  | 0, _ => []
  | fuel + 1, cs =>
    match cs.dropWhile isSpace with
    | [] => []
    | cs =>
      match scanToken cs with
      | none => [.invalid]
      | some (token, rest) => token :: scanTokens fuel rest

/-- The tokens of a text.  Each takes up one character at least. -/
def tokens (text : String) : List Token := scanTokens text.toList.length text.toList

end TableStore.Json
