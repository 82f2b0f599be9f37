import TableStore.CommandLine.Argument
import TableStore.Net.Listen
import TableStore.Text.Escaped

/-!
# Launching

What happens when the program is called with the words of a command line: what it reports, and
whether it ends or goes on to serve requests.  Words that ask for help win over everything else.
Otherwise the settings are made, the storage nodes get their place on the network if they need
one, and the coordinator gets its own.
-/

namespace TableStore

/-- How urgent a report is. -/
inductive Level
  | info
  | warning
  deriving DecidableEq, Repr

/-- The name of a level. -/
def Level.text : Level → String
  | info => "INFO"
  | warning => "WARN"

/-- What a launch reports on its way. -/
inductive Report
  /-- A word of the command line that means nothing. -/
  | ignored (word : String)
  | starting (address : SocketAddress)
  | configured (settings : Settings)
  | nodesListening (address : SocketAddress)
  | listening (address : SocketAddress)
  /-- How to end the program. -/
  | stopHint
  deriving DecidableEq, Repr

namespace Report

/-- How urgent a report is. -/
def level : Report → Level
  | ignored _ => .warning
  | _ => .info

/-- What a report says. -/
def wording : Report → String
  | ignored word => "Ignoring unknown argument " ++ word
  | starting address => "Starting coordinator on " ++ address.text
  | configured settings =>
    "Data dir " ++ settings.dataDir.text ++ ", heartbeat every " ++
      toString settings.heartbeatInterval ++ "ms, transport " ++ settings.transport.label
  | nodesListening address => "Storage node host listening on " ++ address.text
  | listening address => "HTTP server listening on " ++ address.text
  | stopHint => "Press Ctrl+C to shutdown"

/-- The text of a report, which holds no commands to a terminal. -/
def text (report : Report) : String := Text.defuse report.wording

end Report

/-- Why a launch fails. -/
inductive LaunchError
  | arguments (fault : Argument.Fault)
  /-- The storage nodes cannot listen. -/
  | nodes (address : SocketAddress) (cause : IoError)
  /-- The coordinator cannot listen. -/
  | server (cause : IoError)
  deriving DecidableEq, Repr

/-- The text of a failure. -/
def LaunchError.message : LaunchError → String
  | arguments fault => fault.message
  | nodes address _ => "Failed to bind node host on " ++ address.text
  | server cause => cause.message

/-- What a launch comes to. -/
inductive LaunchResult
  | usage
  | failed (error : LaunchError)
  /-- The program serves requests until it is stopped. -/
  | serving (settings : Settings)
  deriving DecidableEq, Repr

namespace LaunchResult

/-- The code that the program ends with, if it ends. -/
def exitCode? : LaunchResult → Option Nat
  | usage => some 0
  | failed _ => some 1
  | serving _ => none

/-- The lines that explain how to call the program. -/
def usageLines (program : String) : List String :=
  ["Usage: " ++ program ++ " [--config <file.toml>] [--bind <addr:port>] [--data-dir <dir>]" ++
      " [--transport <in_process|http>]",
    "Example: " ++ program ++ " --bind 127.0.0.1:8080 --data-dir data"]

/-- What the program says about its end, line by line. -/
def lines (program : String) : LaunchResult → List String
  | usage => usageLines program
  | failed error => Text.lines ("Error: " ++ error.message ++ "\n")
  | serving _ => []

end LaunchResult

/-- A launch: its reports in their order, and what it comes to. -/
structure Launch where
  reports : List Report
  result : LaunchResult
  deriving DecidableEq, Repr

namespace Launch

/-- Whether a word asks for help. -/
def asksForHelp (word : String) : Bool := word = "--help" || word = "-h"

/-- Gives the storage nodes their place, if they are reached over a network. -/
def bindNodes (settings : Settings) : Except LaunchError (List Report) :=
  match settings.transport with
  | .inProcess => .ok []
  | .http =>
    match settings.nodeBind.listen with
    | .error cause => .error (.nodes settings.nodeBind cause)
    | .ok () => .ok [.nodesListening settings.nodeBind]

/-- What the coordinator's attempt to listen comes to. -/
def bindServer (settings : Settings) : LaunchResult :=
  match settings.bind.listen with
  | .error cause => .failed (.server cause)
  | .ok () => .serving settings

/-- The launch with given settings. -/
def ofSettings (settings : Settings) : Launch :=
  let start := [.starting settings.bind, .configured settings]
  match bindNodes settings with
  | .error error => ⟨start, .failed error⟩
  | .ok nodes => ⟨start ++ nodes ++ [.listening settings.bind, .stopHint], bindServer settings⟩

/-- The launch with the words of a command line. -/
def ofWords (files : FileSystem) (words : List String) : Launch :=
  if words.any asksForHelp then ⟨[], .usage⟩
  else
    let (unknown, outcome) := Argument.settings files words
    let warnings := unknown.map Report.ignored
    match outcome with
    | .error fault => ⟨warnings, .failed (.arguments fault)⟩
    | .ok settings =>
      let launch := ofSettings settings
      { launch with reports := warnings ++ launch.reports }

end Launch

end TableStore
