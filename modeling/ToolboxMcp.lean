import ToolboxMcp.ActivationAnswers
import ToolboxMcp.Announcements
import ToolboxMcp.AuditAgreement
import ToolboxMcp.AuditLog
import ToolboxMcp.Commitments
import ToolboxMcp.Consent
import ToolboxMcp.ContractCache
import ToolboxMcp.ContractViews
import ToolboxMcp.CrashSafety
import ToolboxMcp.DescribedTools
import ToolboxMcp.Disk
import ToolboxMcp.Dispatch
import ToolboxMcp.Following
import ToolboxMcp.InFlight
import ToolboxMcp.InFlightSafety
import ToolboxMcp.Invariants
import ToolboxMcp.InventoryDrift
import ToolboxMcp.Isolation
import ToolboxMcp.KeyOrder
import ToolboxMcp.KnownGood
import ToolboxMcp.LateFailures
import ToolboxMcp.Library.Copies
import ToolboxMcp.Library.Effect
import ToolboxMcp.Library.Framing
import ToolboxMcp.Library.History
import ToolboxMcp.Library.Journal
import ToolboxMcp.Library.KeyedList
import ToolboxMcp.Library.Leaders
import ToolboxMcp.Library.Mutex
import ToolboxMcp.Library.OrderedMap
import ToolboxMcp.Library.Queue
import ToolboxMcp.Library.Ranking
import ToolboxMcp.Library.Returns
import ToolboxMcp.Library.Runs
import ToolboxMcp.Lifetime
import ToolboxMcp.Liveness
import ToolboxMcp.Machine
import ToolboxMcp.Mirrored
import ToolboxMcp.Models
import ToolboxMcp.Motions
import ToolboxMcp.Mounted
import ToolboxMcp.Openings
import ToolboxMcp.Orphans
import ToolboxMcp.Persistence
import ToolboxMcp.Program.Batch
import ToolboxMcp.Program.BatchAgreement
import ToolboxMcp.Program.BatchProgram
import ToolboxMcp.Program.BatchReferences
import ToolboxMcp.Program.BatchRuns
import ToolboxMcp.Program.Budgets
import ToolboxMcp.Program.Builtins
import ToolboxMcp.Program.CallBinding
import ToolboxMcp.Program.EvaluationOrder
import ToolboxMcp.Program.JsonValues
import ToolboxMcp.Program.Noninterference
import ToolboxMcp.Program.Python
import ToolboxMcp.Program.Redaction
import ToolboxMcp.Program.Relations
import ToolboxMcp.Program.Replay
import ToolboxMcp.Program.Results
import ToolboxMcp.Program.Runtime
import ToolboxMcp.Program.Shapes
import ToolboxMcp.Program.Syntax
import ToolboxMcp.Program.TwoRuntimes
import ToolboxMcp.RecordForms
import ToolboxMcp.Recovery
import ToolboxMcp.Registrations
import ToolboxMcp.Registry
import ToolboxMcp.RegistryMap
import ToolboxMcp.Reordering
import ToolboxMcp.RestoreReports
import ToolboxMcp.Retained
import ToolboxMcp.Retries
import ToolboxMcp.RuntimeActor
import ToolboxMcp.RuntimeReplies
import ToolboxMcp.ScopeHistory
import ToolboxMcp.ScopeLedger
import ToolboxMcp.ScopeManager
import ToolboxMcp.Searching
import ToolboxMcp.Secrecy
import ToolboxMcp.Serialization
import ToolboxMcp.Service.Agreement
import ToolboxMcp.Service.Announcing
import ToolboxMcp.Service.Awaits
import ToolboxMcp.Service.Blanking
import ToolboxMcp.Service.Caching
import ToolboxMcp.Service.Calls
import ToolboxMcp.Service.Confinement
import ToolboxMcp.Service.Core
import ToolboxMcp.Service.Descriptions
import ToolboxMcp.Service.Determined
import ToolboxMcp.Service.Dormancy
import ToolboxMcp.Service.Editing
import ToolboxMcp.Service.Frames
import ToolboxMcp.Service.Handover
import ToolboxMcp.Service.Inspection
import ToolboxMcp.Service.Lifecycle
import ToolboxMcp.Service.Listing
import ToolboxMcp.Service.Logging
import ToolboxMcp.Service.Marking
import ToolboxMcp.Service.Mirroring
import ToolboxMcp.Service.Mounting
import ToolboxMcp.Service.Preserving
import ToolboxMcp.Service.Reporting
import ToolboxMcp.Service.Requests
import ToolboxMcp.Service.Restoring
import ToolboxMcp.Service.Rules
import ToolboxMcp.Service.Scoping
import ToolboxMcp.Service.Searching
import ToolboxMcp.Service.Serving
import ToolboxMcp.Service.Startup
import ToolboxMcp.Service.Stretches
import ToolboxMcp.Service.ToolList
import ToolboxMcp.Service.Views
import ToolboxMcp.Service.Writes
import ToolboxMcp.ShortKey
import ToolboxMcp.StaleMarks
import ToolboxMcp.StateFile
import ToolboxMcp.StdioTransport
import ToolboxMcp.TransportCoherence
import ToolboxMcp.TransportManager
import ToolboxMcp.TransportSecrets
import ToolboxMcp.Turns
import ToolboxMcp.Validation
import ToolboxMcp.Visits
import ToolboxMcp.Waiting
