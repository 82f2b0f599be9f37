import TableStore.CommandLine.Session

/-!
# The program

Reads the file of settings that the command line names, launches, and then serves the requests on
the lines of standard input until they end.  Reports and responses go to standard output, reasons
of failure to the standard error output.  The storage nodes' files are kept in memory.
-/

namespace TableStore

/-- The file system with the file at a path, if that can be read. -/
def importFile (path : String) : IO FileSystem := do
  try
    let content ← IO.FS.readBinFile path
    let path := Path.ofText path
    return ((FileSystem.empty.createDirectories path.parent).2.writeBytes path content).2
  catch _ =>
    return FileSystem.empty

/-- The files that the words of a command line ask for. -/
def importFiles (words : List String) : IO FileSystem :=
  match Argument.configFile words with
  | .ok (some path) => importFile path
  | _ => return FileSystem.empty

/-- Serves the requests on the remaining lines of standard input. -/
partial def serveInput (c : Coordinator) : IO Unit := do
  let line ← (← IO.getStdin).getLine
  if line.isEmpty then return
  let (answer, c) := Session.serveLine c (line.dropEndWhile (· == '\n')).toString
  IO.println answer
  (← IO.getStdout).flush
  serveInput c

end TableStore

open TableStore in
/-- Launches with the words of the command line. -/
def main (words : List String) : IO UInt32 := do
  let files ← importFiles words
  let launch := Launch.ofWords files words
  for report in launch.reports do
    IO.println (report.level.text ++ " " ++ report.text)
  for line in launch.result.lines "replicated-store" do
    IO.eprintln line
  match launch.result with
  | .serving settings =>
    serveInput (Session.start settings files)
    return 0
  | result => return UInt32.ofNat (result.exitCode?.getD 0)
