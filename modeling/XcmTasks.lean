import XcmTasks.Chain.Local
import XcmTasks.Config.Load
import XcmTasks.Node.InMemory
import XcmTasks.Proofs.Adapter.Pricing
import XcmTasks.Rpc.Network
import XcmTasks.Scheduler
import XcmTasks.Proofs.Scheduling.Course
import XcmTasks.Proofs.Scale.Basic
import XcmTasks.Proofs.Scale.Compact
import XcmTasks.Proofs.Scale.Wire
import XcmTasks.Proofs.Scale.Message
import XcmTasks.Proofs.Scale.Exact
import XcmTasks.Proofs.Adapter.Errands
import XcmTasks.Proofs.Adapter.Fees
import XcmTasks.Proofs.Adapter.Life
import XcmTasks.Proofs.Adapter.Connections
import XcmTasks.Proofs.Adapter.Lifecycle
import XcmTasks.Proofs.Scheduling.Arguments
import XcmTasks.Proofs.Scheduling.Order
import XcmTasks.Proofs.Weight
import XcmTasks.Proofs.Registry
import XcmTasks.Proofs.Scheduling.Submission
import XcmTasks.Proofs.Scheduler
import XcmTasks.Proofs.Scheduling.Stages
import XcmTasks.Proofs.Scheduling.Derivative
import XcmTasks.Proofs.Adapter.Views
import XcmTasks.Proofs.Rpc.Asking
import XcmTasks.Proofs.Rpc.Nonces
import XcmTasks.Proofs.Registering
import XcmTasks.Proofs.Setup
import XcmTasks.Proofs.Adapter.OverallWeight
import XcmTasks.Proofs.Registrations
import XcmTasks.Proofs.Linking
import XcmTasks.Proofs.Startup
import XcmTasks.Proofs.Json.Settings
import XcmTasks.Proofs.Derivation
import XcmTasks.Proofs.Location
import XcmTasks.Proofs.Adapter.Rates
import XcmTasks.Proofs.Origin
import XcmTasks.Proofs.Adapter.Rejections
import XcmTasks.Proofs.Scheduling.Capability
import XcmTasks.Proofs.Location.Keys
import XcmTasks.Proofs.Location.Describe
import XcmTasks.Proofs.Symbols
import XcmTasks.Proofs.Adapter.Automation
import XcmTasks.Proofs.Rpc.WireFormat
import XcmTasks.Proofs.Rpc.Sequence
import XcmTasks.Proofs.CallIndices
import XcmTasks.Proofs.Enabled
import XcmTasks.Proofs.Account
import XcmTasks.Proofs.Weight.Laws
import XcmTasks.Proofs.Location.Bound
import XcmTasks.Proofs.Rpc.Clients
import XcmTasks.Proofs.Rpc.Endpoint
