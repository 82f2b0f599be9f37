import TableStore.Text.Hex
import TableStore.Text.Magnitude
import TableStore.Toml.Basic

/-!
# Words and strings of configuration documents

Numbers, truth values, times and dates are words without white space, except that a space may
stand between a date and a time.  Strings stand in one or three quotes; double quotes allow
escapes, single quotes do not.

A reader takes a prefix of the text and gives back what follows it, or fails.
-/

namespace TableStore.Toml

/-! ## Characters -/

/-- Whether a character may stand in comments and between single quotes. -/
def isPlain (c : Char) : Bool := c = '\t' || (0x20 ≤ c.toNat && c.toNat ≠ 0x7f)

/-- White space within a line. -/
def isBlank (c : Char) : Bool := c = ' ' || c = '\t'

/-- A line feed, with or without a carriage return before it, at the start of a text. -/
def lineEnd? : List Char → Option (List Char)
  | '\n' :: rest => some rest
  | '\r' :: '\n' :: rest => some rest
  | _ => none

/-- The text without the white space and line ends that it begins with. -/
def skipLines : List Char → List Char
  | '\n' :: rest => skipLines rest
  | '\r' :: '\n' :: rest => skipLines rest
  | ' ' :: rest => skipLines rest
  | '\t' :: rest => skipLines rest
  | rest => rest

/-! ## Numbers -/

/-- Whether a character is an ASCII digit. -/
def isDigit (c : Char) : Bool := (Text.digit? c).isSome

/-- Removes the underscores from digits, which may stand only between two digits. -/
def ungroup (isDigit : Char → Bool) : List Char → Option (List Char)
  | [] => none
  | [c] => if isDigit c then some [c] else none
  | c :: '_' :: rest => if isDigit c then (ungroup isDigit rest).map (c :: ·) else none
  | c :: rest => if isDigit c then (ungroup isDigit rest).map (c :: ·) else none

/-- The digits of a decimal number, which begin with a zero only if that is the only one. -/
def decimalDigits (cs : List Char) : Option (List Char) :=
  (ungroup isDigit cs).filter fun digits => digits.length = 1 || digits.head? ≠ some '0'

/-- Whether a sign is negative, and what follows the sign. -/
def splitSign : List Char → Bool × List Char
  | '+' :: rest => (false, rest)
  | '-' :: rest => (true, rest)
  | rest => (false, rest)

/-- The value of digits in a base, if it has 63 bits at most. -/
def baseValue (base : Nat) (digits : List Char) : Option Int :=
  ((Text.readInBase? base digits).filter (· < Text.int64Limit)).map Int.ofNat

/-- Whether a character is a digit in a base. -/
def isDigitIn (base : Nat) (c : Char) : Bool := (Text.digitIn? base c).isSome

/-- The integer that a word writes. -/
def integer? (word : List Char) : Option Int :=
  match word with
  | '0' :: 'x' :: digits => (ungroup (isDigitIn 16) digits).bind (baseValue 16)
  | '0' :: 'o' :: digits => (ungroup (isDigitIn 8) digits).bind (baseValue 8)
  | '0' :: 'b' :: digits => (ungroup (isDigitIn 2) digits).bind (baseValue 2)
  | _ => do
    let (negative, digits) := splitSign word
    let value ← Text.readDigits 0 (← decimalDigits digits)
    let signed : Int := if negative then -value else value
    if Text.inInt64 signed then some signed else none

/-- The value of the exponent of a number, from its mark on. -/
def exponentValue : List Char → Option Int
  | [] => some 0
  | _ :: cs =>
    let (negative, digits) := splitSign cs
    (ungroup isDigit digits).bind fun digits =>
      (Text.readDigits 0 digits).map fun n => if negative then -(n : Int) else n

/-- The digits behind the point of a number, from the point on. -/
def decimalPlaces : List Char → Option (List Char)
  | [] => some []
  | _ :: digits => ungroup isDigit digits

/-- Whether a word writes a number with a point or an exponent.  A positive number beyond the
range of double-precision numbers is none. -/
def isFraction (word : List Char) : Bool :=
  let (negative, unsigned) := splitSign word
  let (mantissa, exponent) := unsigned.span fun c => c ≠ 'e' && c ≠ 'E'
  let (whole, places) := mantissa.span (· ≠ '.')
  match decimalDigits whole, decimalPlaces places, exponentValue exponent with
  | some digits, some decimals, some power =>
    (places ≠ [] || exponent ≠ []) &&
      (negative || !Text.exceedsDouble (digits ++ decimals) (power - decimals.length))
  | _, _, _ => false

/-- Whether a word is one of those for numbers that are not finite. -/
def isNotFinite (word : List Char) : Bool :=
  (splitSign word).2 = "inf".toList || (splitSign word).2 = "nan".toList

/-! ## Times and dates -/

/-- Reads a number of exactly `count` digits. -/
def fixedDigits (count : Nat) (cs : List Char) : Option (Nat × List Char) :=
  let digits := cs.take count
  if digits.length = count ∧ digits.all isDigit then
    (Text.readDigits 0 digits).map fun n => (n, cs.drop count)
  else none

/-- Reads a number of two digits between two bounds. -/
def twoDigits (low high : Nat) (cs : List Char) : Option (List Char) :=
  (fixedDigits 2 cs).bind fun found =>
    if low ≤ found.1 ∧ found.1 ≤ high then some found.2 else none

/-- Reads one given character. -/
def skip (c : Char) : List Char → Option (List Char)
  | [] => none
  | c' :: rest => if c' = c then some rest else none

/-- The number of days in a month. -/
def daysIn (year month : Nat) : Nat :=
  if month = 2 then
    if year % 4 = 0 ∧ (year % 100 ≠ 0 ∨ year % 400 = 0) then 29 else 28
  else if month ∈ [4, 6, 9, 11] then 30
  else 31

/-- Reads a date. -/
def date? (cs : List Char) : Option (List Char) := do
  let (year, rest) ← fixedDigits 4 cs
  let rest ← skip '-' rest
  let (month, rest) ← fixedDigits 2 rest
  if month = 0 ∨ 12 < month then none
  else
    let rest ← skip '-' rest
    twoDigits 1 (daysIn year month) rest

/-- Reads hours and minutes. -/
def clock? (cs : List Char) : Option (List Char) := do
  let rest ← twoDigits 0 23 cs
  let rest ← skip ':' rest
  twoDigits 0 59 rest

/-- Reads a time of day. -/
def timeOfDay? (cs : List Char) : Option (List Char) := do
  let rest ← clock? cs
  let rest ← skip ':' rest
  let rest ← twoDigits 0 60 rest
  match rest with
  | '.' :: rest => if (rest.takeWhile isDigit) = [] then none else some (rest.dropWhile isDigit)
  | rest => some rest

/-- Whether a text is nothing or the distance of a time zone. -/
def isZone : List Char → Bool
  | [] => true
  | ['Z'] => true
  | ['z'] => true
  | '+' :: rest => clock? rest = some []
  | '-' :: rest => clock? rest = some []
  | _ => false

/-- Whether a word is a date without a time. -/
def isDate (word : List Char) : Bool := date? word = some []

/-- Whether a word is a time of day, and a zone if that is allowed. -/
def isTime (zone : Bool) (word : List Char) : Bool :=
  match timeOfDay? word with
  | some rest => if zone then isZone rest else rest.isEmpty
  | none => false

/-- Whether a word is a date, a time or both. -/
def isMoment (word : List Char) : Bool :=
  isTime false word ||
    match date? word with
    | some [] => true
    | some (c :: clock) => (c = 'T' || c = 't') && isTime true clock
    | none => false

/-! ## Words -/

/-- Whether a character may occur in a word. -/
def isWordChar (c : Char) : Bool := c.isAlphanum || "_+-.:".toList.contains c

/-- The value of a word. -/
def wordValue? (word : List Char) : Option Toml :=
  if word = "true".toList then some (.boolean true)
  else if word = "false".toList then some (.boolean false)
  else
    match integer? word with
    | some value => some (.integer value)
    | none =>
      if isFraction word || isNotFinite word then some .fraction
      else if isMoment word then some .time
      else none

/-- Reads a word.  A time that follows a date after one space belongs to it. -/
def scanWord (cs : List Char) : Option (Toml × List Char) :=
  let (word, rest) := cs.span isWordChar
  match rest with
  | ' ' :: behind =>
    let (second, rest') := behind.span isWordChar
    if isDate word && second ≠ [] then
      if isTime true second then some (.time, rest') else none
    else (wordValue? word).map fun value => (value, rest)
  | _ => (wordValue? word).map fun value => (value, rest)

/-! ## Strings -/

/-- The character with a code point, if there is one. -/
def charOf? (code : Nat) : Option Char :=
  if code < 0xd800 ∨ (0xdfff < code ∧ code < 0x110000) then some (Char.ofNat code) else none

/-- The character that `count` hexadecimal digits write, and what follows them. -/
def scanCode (count : Nat) (cs : List Char) : Option (Char × List Char) :=
  if cs.length < count then none
  else ((Text.readInBase? 16 (cs.take count)).bind charOf?).map fun c => (c, cs.drop count)

/-- The character that an escape means, from the text behind the backslash. -/
def scanEscape : List Char → Option (Char × List Char)
  | 'b' :: rest => some ('\x08', rest)
  | 't' :: rest => some ('\t', rest)
  | 'n' :: rest => some ('\n', rest)
  | 'f' :: rest => some ('\x0c', rest)
  | 'r' :: rest => some ('\r', rest)
  | '"' :: rest => some ('"', rest)
  | '\\' :: rest => some ('\\', rest)
  | 'u' :: rest => scanCode 4 rest
  | 'U' :: rest => scanCode 8 rest
  | _ => none

/-- The string that ends at the next double quote.  `fuel` bounds the number of its characters;
`seen` are those before, the last one first. -/
def scanBasic : Nat → List Char → List Char → Option (String × List Char)
  | 0, _, _ => none
  | fuel + 1, seen, cs =>
    match cs with
    | '"' :: rest => some (String.ofList seen.reverse, rest)
    | '\\' :: rest => (scanEscape rest).bind fun found => scanBasic fuel (found.1 :: seen) found.2
    | c :: rest => if isPlain c then scanBasic fuel (c :: seen) rest else none
    | [] => none

/-- The string that ends at the next single quote. -/
def scanLiteral (cs : List Char) : Option (String × List Char) :=
  let (content, rest) := cs.span fun c => isPlain c && c ≠ '\''
  (skip '\'' rest).map fun rest => (String.ofList content, rest)

/-- What a run of quotes means in a string between three quotes: how many of them belong to the
string, and whether the string ends with the run.  Up to two quotes before the last three belong
to it. -/
def quoteRun (length : Nat) : Nat × Bool :=
  if length < 3 then (length, false) else (min (length - 3) 2, true)

/-- The string that ends at the next three quotes.  With `escapes`, backslashes begin escapes; one
at the end of a line joins that line with the next text. -/
def scanMultiline (quote : Char) (escapes : Bool) :
    Nat → List Char → List Char → Option (String × List Char)
  | 0, _, _ => none
  | fuel + 1, seen, cs =>
    match cs with
    | [] => none
    | c :: rest =>
      if c = quote then
        let (own, ends) := quoteRun (cs.takeWhile (· = quote)).length
        let seen := List.replicate own quote ++ seen
        if ends then some (String.ofList seen.reverse, cs.drop (own + 3))
        else scanMultiline quote escapes fuel seen (cs.drop own)
      else if escapes && c = '\\' then
        match lineEnd? (rest.dropWhile isBlank) with
        | some rest => scanMultiline quote escapes fuel seen (skipLines rest)
        | none =>
          (scanEscape rest).bind fun found =>
            scanMultiline quote escapes fuel (found.1 :: seen) found.2
      else
        match lineEnd? cs with
        | some rest => scanMultiline quote escapes fuel ('\n' :: seen) rest
        | none => if isPlain c then scanMultiline quote escapes fuel (c :: seen) rest else none

/-- The text without a line end directly at its start. -/
def dropLineEnd (cs : List Char) : List Char := (lineEnd? cs).getD cs

/-- Reads a string in one or three quotes of either kind. -/
def scanString : List Char → Option (String × List Char)
  | '"' :: '"' :: '"' :: rest =>
    scanMultiline '"' true (rest.length + 1) [] (dropLineEnd rest)
  | '\'' :: '\'' :: '\'' :: rest =>
    scanMultiline '\'' false (rest.length + 1) [] (dropLineEnd rest)
  | '"' :: rest => scanBasic (rest.length + 1) [] rest
  | '\'' :: rest => scanLiteral rest
  | _ => none

end TableStore.Toml
