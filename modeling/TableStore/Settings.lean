import TableStore.Net.Address
import TableStore.ReplicatedTable.Basic
import TableStore.Toml.Reader

/-!
# Settings

What a coordinator is started with, and how a configuration document sets it.  Every key of the
document is optional, and keys that mean nothing are ignored; a key with a value of the wrong kind
spoils the whole document.
-/

namespace TableStore

/-- How the coordinator reaches its storage nodes. -/
inductive Transport
  /-- By direct calls. -/
  | inProcess
  /-- By requests over a network. -/
  | http
  deriving DecidableEq, Repr

namespace Transport

/-- The name of a transport in documents and arguments. -/
def name : Transport → String
  | inProcess => "in_process"
  | http => "http"

/-- The transport with the given name. -/
def ofName? : String → Option Transport
  | "in_process" => some inProcess
  | "http" => some http
  | _ => none

/-- The message for a text that names no transport. -/
def unknownMessage (text : String) : String := "Unknown transport: " ++ text

/-- The name of a transport in reports. -/
def label : Transport → String
  | inProcess => "InProcess"
  | http => "Http"

@[simp] theorem ofName?_name (transport : Transport) : ofName? transport.name = some transport := by
  cases transport <;> rfl

/-- The transport that a value of a document means: its name, or a table with its name as the only
key and nothing in it. -/
def ofToml? : Toml → Option Transport
  | .text name => ofName? name
  | .table _ [(name, value)] => if value.isEmpty then ofName? name else none
  | _ => none

end Transport

/-- What a coordinator is started with. -/
structure Settings where
  /-- Where the coordinator listens. -/
  bind : SocketAddress := .v4 [127, 0, 0, 1] 8080
  /-- The directory of the storage nodes' files. -/
  dataDir : Path := ["data"]
  /-- The milliseconds between two heartbeat rounds. -/
  heartbeatInterval : Nat := 500
  transport : Transport := .inProcess
  /-- Where the storage nodes listen. -/
  nodeBind : SocketAddress := .v4 [127, 0, 0, 1] 9090
  /-- The milliseconds after which a call over the network is given up. -/
  remoteTimeout : Nat := 500
  /-- How often a call over the network is tried. -/
  remoteAttempts : Nat := 3
  deriving DecidableEq, Repr

/-- Why settings cannot be loaded. -/
inductive SettingsError
  | io (cause : IoError)
  /-- The text is no configuration document, or a value in it is of the wrong kind. -/
  | malformed
  deriving DecidableEq, Repr

namespace Settings

/-- The part of the settings that concerns the replication of tables. -/
def replication (settings : Settings) : ReplicationSettings :=
  ⟨settings.dataDir, settings.heartbeatInterval⟩

/-- The value of a key as `read` understands it, or a default for a missing key. -/
def entry {α : Type} (entries : Toml.Entries) (key : String) (read : Toml → Option α)
    (default : α) : Option α :=
  match entries.get? key with
  | none => some default
  | some value => read value

/-- The address that a value of a document writes. -/
def address? (value : Toml) : Option SocketAddress := value.asText?.bind SocketAddress.ofText?

/-- The settings that the entries of a document make. -/
def ofEntries? (entries : Toml.Entries) : Option Settings := do
  let start : Settings := {}
  let bind ← entry entries "bind" address? start.bind
  let dataDir ← entry entries "data_dir" (·.asText?.map Path.ofText) start.dataDir
  let heartbeatInterval ←
    entry entries "heartbeat_interval_ms" Toml.asNat? start.heartbeatInterval
  let transport ← entry entries "transport" Transport.ofToml? start.transport
  let nodeBind ← entry entries "node_bind" address? start.nodeBind
  let remoteTimeout ← entry entries "remote_timeout_ms" Toml.asNat? start.remoteTimeout
  let remoteAttempts ← entry entries "remote_attempts" Toml.asNat? start.remoteAttempts
  return { bind, dataDir, heartbeatInterval, transport, nodeBind, remoteTimeout, remoteAttempts }

/-- The settings that a document makes. -/
def ofText? (text : String) : Option Settings := (Toml.read text).bind ofEntries?

/-- The settings in a file. -/
def load (files : FileSystem) (path : Path) : Except SettingsError Settings :=
  match files.readText path with
  | .error cause => .error (.io cause)
  | .ok text =>
    match ofText? text with
    | none => .error .malformed
    | some settings => .ok settings

end Settings

end TableStore
