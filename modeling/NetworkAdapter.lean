import NetworkAdapter.Semantics.Execution
import NetworkAdapter.Semantics.Settling
import NetworkAdapter.Semantics.Custody
import NetworkAdapter.Semantics.Effect
import NetworkAdapter.Semantics.Transaction
import NetworkAdapter.Semantics.Plan
import NetworkAdapter.Std.Dict
import NetworkAdapter.Std.Json
import NetworkAdapter.Std.Occurrences
import NetworkAdapter.Std.Tally
import NetworkAdapter.Std.Weights
import NetworkAdapter.Std.Text
import NetworkAdapter.Std.Lines
import NetworkAdapter.Std.Equality
import NetworkAdapter.Std.FallibleSort
import NetworkAdapter.Std.Comparison
import NetworkAdapter.Std.ShannonEntropy
import NetworkAdapter.OpenFlow.FlowTable
import NetworkAdapter.OpenFlow.Messages
import NetworkAdapter.OpenFlow.Lookup
import NetworkAdapter.Store.TinyDb
import NetworkAdapter.Store.Concurrency
import NetworkAdapter.Store.Upsert
import NetworkAdapter.Store.UpsertRuns
import NetworkAdapter.Store.SortedReads
import NetworkAdapter.Store.InitDb
import NetworkAdapter.Server.ClientConnect
import NetworkAdapter.Server.ReadLoop
import NetworkAdapter.Server.Dispatch
import NetworkAdapter.Server.Registry
import NetworkAdapter.Server.Dispatcher
import NetworkAdapter.Server.Delivery
import NetworkAdapter.Server.Order
import NetworkAdapter.Controller.Entropy
import NetworkAdapter.Controller.Sampling
import NetworkAdapter.Controller.Simulation
import NetworkAdapter.Controller.Handling
import NetworkAdapter.Controller.FalseAlarm
import NetworkAdapter.Controller.Whitelist
import NetworkAdapter.Controller.Recovery
import NetworkAdapter.Controller.Rules
import NetworkAdapter.Controller.Learning
import NetworkAdapter.Controller.Determinism
import NetworkAdapter.Controller.ProtocolBans
import NetworkAdapter.Controller.Routes
import NetworkAdapter.Controller.Histograms
import NetworkAdapter.Controller.Coverage
import NetworkAdapter.Controller.Observability
import NetworkAdapter.Controller.Streams
import NetworkAdapter.Controller.Forwarding
import NetworkAdapter.Controller.Alarm
import NetworkAdapter.Controller.Freshness
import NetworkAdapter.Controller.Samples
import NetworkAdapter.Controller.Ports
import NetworkAdapter.Controller.Memory
import NetworkAdapter.Controller.BanLookup
import NetworkAdapter.Controller.WhitelistLookup
import NetworkAdapter.Controller.WindowStatistics
import NetworkAdapter.Client.Connection
import NetworkAdapter.Client.Receiving
import NetworkAdapter.Client.Results
import NetworkAdapter.Client.TaskQueue
import NetworkAdapter.Client.TaskController
import NetworkAdapter.Client.Outcomes
import NetworkAdapter.Client.Reconnect
import NetworkAdapter.Service.SwitchTask
import NetworkAdapter.Service.TaskIds
import NetworkAdapter.Service.Lookup
import NetworkAdapter.Service.TaskService
import NetworkAdapter.Service.TaskStatus
import NetworkAdapter.Service.Topology
import NetworkAdapter.Service.TopologyUpdate
import NetworkAdapter.Service.TopologyMarks
import NetworkAdapter.Service.TimeOrder
import NetworkAdapter.Service.History
import NetworkAdapter.Shell.ArgumentLoop
import NetworkAdapter.Shell.Scripts
import NetworkAdapter.System.Simulator
import NetworkAdapter.System.Framing
import NetworkAdapter.System.Pipe
import NetworkAdapter.System.Pipeline
import NetworkAdapter.System.Connected
import NetworkAdapter.System.Custody
import NetworkAdapter.System.AtMostOnce
import NetworkAdapter.System.Reports
import NetworkAdapter.System.Calm
import NetworkAdapter.System.SharedTopologies
import NetworkAdapter.System.BanReports
import NetworkAdapter.Network.LoopFree
import NetworkAdapter.Network.Fabric
import NetworkAdapter.Network.Commands
import NetworkAdapter.Network.Discipline
import NetworkAdapter.Network.Operation
import NetworkAdapter.Network.Directions
import NetworkAdapter.Network.Balance
import NetworkAdapter.Network.Delivery
import NetworkAdapter.Network.ExactDelivery
import NetworkAdapter.Network.Draining
import NetworkAdapter.Network.Storm
import NetworkAdapter.Network.Darkness
import NetworkAdapter.Server.Filing
import NetworkAdapter.System.Service
import NetworkAdapter.System.Completion
import NetworkAdapter.Network.Isolation
import NetworkAdapter.System.Provenance
