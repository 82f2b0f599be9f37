import TableStore.Text.Classes
import TableStore.Text.Hex

/-!
# Escaped text

Two forms of a text that may hold control characters.

* `escape` is the form in which error messages quote a text.  Tabs, line ends, quotes and
  backslashes have short escapes; other characters that show no mark are written as `\u` with their
  code point in braces; all other characters stand for themselves.  A character that extends the
  one before it is escaped at the start of the text only, where nothing stands before it.
* `defuse` is the form in which reports hold a text.  Only those characters are escaped that begin
  a command to a terminal or move its cursor back.
-/

namespace TableStore.Text

/-- The escape that names a character by its code point. -/
def codeEscape (c : Char) : List Char := ['\\', 'u', '\x7b'] ++ hex c.toNat ++ ['\x7d']

/-! ## Quoted texts -/

/-- The escaped form of one character, which stands at the start of the text or not. -/
def escapeChar (first : Bool) (c : Char) : List Char :=
  match c with
  | '\x00' => ['\\', '0']
  | '\t' => ['\\', 't']
  | '\r' => ['\\', 'r']
  | '\n' => ['\\', 'n']
  | '\'' => ['\\', '\'']
  | '"' => ['\\', '"']
  | '\\' => ['\\', '\\']
  | c => if (first && isExtending c) || !isPrintable c then codeEscape c else [c]

/-- The escaped form of a text. -/
def escape (text : String) : String :=
  match text.toList with
  | [] => ""
  | c :: cs => String.ofList (escapeChar true c ++ cs.flatMap (escapeChar false))

/-! ## Reported texts -/

/-- The ASCII characters that are escaped in reports: the bell, the backspace, the form feed, the
escape character and the delete character. -/
def commandChars : List Char := ['\x07', '\x08', '\x0c', '\x1b', '\x7f']

/-- The form of one character in a report.  The control characters beyond ASCII are escaped like
those in `commandChars`, but with their whole code point. -/
def defuseChar (c : Char) : List Char :=
  if c ∈ commandChars then ['\\', 'x'] ++ hexDigits 2 c.toNat
  else if 0x80 ≤ c.toNat ∧ c.toNat ≤ 0x9f then codeEscape c
  else [c]

/-- The form of a text in a report. -/
def defuse (text : String) : String := String.ofList (text.toList.flatMap defuseChar)

end TableStore.Text
