/-!
# Lines of a text

A line ends with a line feed, and a carriage return directly before that line feed belongs to the
line's end.  Text after the last line feed is a line as well, unless it is empty; its carriage
returns stay, because no line feed follows them.
-/

namespace TableStore.Text

/-- The line without the carriage return that its line feed followed. -/
def dropReturn (line : List Char) : List Char :=
  if line.getLast? = some '\r' then line.dropLast else line

/-- The lines of a text. -/
def lines (text : String) : List String :=
  let pieces := text.toList.splitOn '\n'
  let ended := pieces.dropLast.map dropReturn
  let rest := pieces.getLast?.toList.filter (· ≠ [])
  (ended ++ rest).map String.ofList

/-- Every line followed by a line feed. -/
def unlines (lines : List String) : String := String.join (lines.map (· ++ "\n"))

end TableStore.Text
