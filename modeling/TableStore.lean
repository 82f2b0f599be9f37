import TableStore.CommandLine.Argument
import TableStore.CommandLine.Launch
import TableStore.CommandLine.Session
import TableStore.Coordinator.Api
import TableStore.Coordinator.Basic
import TableStore.Coordinator.Check
import TableStore.Coordinator.Request
import TableStore.Error
import TableStore.FileSystem.Basic
import TableStore.FileSystem.Directories
import TableStore.FileSystem.Error
import TableStore.FileSystem.Files
import TableStore.FileSystem.Location
import TableStore.FileSystem.Path
import TableStore.Http.Basic
import TableStore.Http.MediaType
import TableStore.Json.Basic
import TableStore.Json.Document
import TableStore.Json.Reader
import TableStore.Json.Record
import TableStore.Json.Token
import TableStore.KeyMap
import TableStore.Layout.Basic
import TableStore.Layout.Router
import TableStore.Main
import TableStore.Net.Address
import TableStore.Net.Listen
import TableStore.Node.Basic
import TableStore.Node.Call
import TableStore.Node.Client
import TableStore.Node.Endpoint
import TableStore.Node.Host
import TableStore.Operation
import TableStore.Proofs.Alignment
import TableStore.Proofs.ColumnGroups
import TableStore.Proofs.ColumnRuns
import TableStore.Proofs.Convergence
import TableStore.Proofs.Deployment
import TableStore.Proofs.Files
import TableStore.Proofs.KeyPartitions
import TableStore.Proofs.KeyRuns
import TableStore.Proofs.KeyedRows
import TableStore.Proofs.LogicalRows
import TableStore.Proofs.Names
import TableStore.Proofs.Plans
import TableStore.Proofs.Reads
import TableStore.Proofs.Requests
import TableStore.Proofs.Routing
import TableStore.Proofs.Rows
import TableStore.Proofs.Runs
import TableStore.Proofs.StaleReplicas
import TableStore.Proofs.Stores
import TableStore.Proofs.Transport
import TableStore.Proofs.Writes
import TableStore.RecordStore.Basic
import TableStore.RecordStore.Rows
import TableStore.Registry
import TableStore.ReplicatedTable.Basic
import TableStore.ReplicatedTable.Read
import TableStore.ReplicatedTable.Summary
import TableStore.ReplicatedTable.Write
import TableStore.Row
import TableStore.Settings
import TableStore.Table
import TableStore.Text.Blank
import TableStore.Text.Classes
import TableStore.Text.Decimal
import TableStore.Text.Escaped
import TableStore.Text.Hex
import TableStore.Text.Lines
import TableStore.Text.Magnitude
import TableStore.Toml.Basic
import TableStore.Toml.Reader
import TableStore.Toml.Scalar
import TableStore.Uuid
import TableStore.Wire.CoordinatorMessage
import TableStore.Wire.Model
import TableStore.Wire.NodeMessage
import TableStore.Proofs.Attempts
import TableStore.Proofs.Effects
import TableStore.Proofs.KeyPlacement
import TableStore.Proofs.Coordinators
import TableStore.Proofs.WriteGates
import TableStore.Proofs.CachedReads
import TableStore.Proofs.AnyRuns
import TableStore.Proofs.RowFormat
import TableStore.Proofs.Registrations
import TableStore.Proofs.Directories
import TableStore.Proofs.Fleets
import TableStore.Proofs.NonInterference
import TableStore.Proofs.SideBySide
import TableStore.Proofs.Transports
import TableStore.Proofs.SharedFiles
import TableStore.Proofs.SharedTables
import TableStore.Proofs.CallSequences
import TableStore.Proofs.Summaries
import TableStore.Proofs.WorkingStores
import TableStore.Proofs.Tuples
import TableStore.Proofs.Refusals
import TableStore.Proofs.HealthyTables
import TableStore.Proofs.RowForms
import TableStore.Proofs.PairRows
import TableStore.Proofs.Rewrites
import TableStore.Proofs.PositionalCalls
import TableStore.Proofs.Insertions
import TableStore.Proofs.PositionSets
import TableStore.Proofs.RepeatedCalls
import TableStore.Proofs.KnownColumns
import TableStore.Proofs.Availability
import TableStore.Proofs.ServableLayouts
import TableStore.Proofs.SplitWrites
import TableStore.Proofs.KeyNumbers
import TableStore.Proofs.JoinedRows
import TableStore.Proofs.WrittenRows
import TableStore.Proofs.CommandLines
import TableStore.Proofs.MessageForms
import TableStore.Proofs.Messages
