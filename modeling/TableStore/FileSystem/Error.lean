/-!
# Causes of failed input and output

What can go wrong when a file is read or written or an address is taken, and the text that
reports it.
-/

namespace TableStore

/-- Why an input or output action failed. -/
inductive IoError
  | notFound
  | permissionDenied
  | alreadyExists
  | notADirectory
  | isADirectory
  | invalidArgument
  | nameTooLong
  /-- The bytes of a file are not the encoding of a text. -/
  | notText
  /-- The name of a file holds the character with code 0. -/
  | zeroInName
  /-- Any other cause, with its own text. -/
  | other (text : String)
  deriving DecidableEq, Repr

namespace IoError

/-- The text of a cause.  Those that the operating system reports carry its number. -/
def message : IoError → String
  | notFound => "No such file or directory (os error 2)"
  | permissionDenied => "Permission denied (os error 13)"
  | alreadyExists => "File exists (os error 17)"
  | notADirectory => "Not a directory (os error 20)"
  | isADirectory => "Is a directory (os error 21)"
  | invalidArgument => "Invalid argument (os error 22)"
  | nameTooLong => "File name too long (os error 36)"
  | notText => "stream did not contain valid UTF-8"
  | zeroInName => "file name contained an unexpected NUL byte"
  | other text => text

end IoError

end TableStore
