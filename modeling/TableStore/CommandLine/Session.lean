import TableStore.CommandLine.Launch
import TableStore.Coordinator.Api
import TableStore.Json.Reader

/-!
# Sessions

A session serves requests that are written on lines: a method, a target and a message, with one
space after each of the first two.  The response to a request is a line as well: its status, and
its message behind one space if it has one.  A heartbeat round passes before every request.
-/

namespace TableStore.Session

/-- The first part of a text up to a space, and what follows the space. -/
def splitSpace (cs : List Char) : String × List Char :=
  (String.ofList (cs.takeWhile (· ≠ ' ')), (cs.dropWhile (· ≠ ' ')).drop 1)

/-- The request that a line writes. -/
def requestOfLine (line : String) : Http.Request :=
  let (method, rest) := splitSpace line.toList
  let (target, message) := splitSpace rest
  ⟨method, target, some "application/json", Json.read (String.ofList message)⟩

/-- The line for a response. -/
def responseLine (response : Http.Response) : String :=
  match response.body with
  | none => toString response.status
  | some body => toString response.status ++ " " ++ body.render

/-- The coordinator that settings ask for, in a file system.  Calls over the network reach every
storage node. -/
def start (settings : Settings) (files : FileSystem) : Coordinator :=
  let registry :=
    match settings.transport with
    | .inProcess => Registry.direct
    | .http => Registry.remote .up settings.remoteAttempts
  .empty ⟨registry, files⟩ settings.replication

/-- The response to a line, and the coordinator after it. -/
def serveLine (c : Coordinator) (line : String) : String × Coordinator :=
  let (response, c) := c.beat.serve (requestOfLine line)
  (responseLine response, c)

end TableStore.Session
