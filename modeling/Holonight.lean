import Holonight.Agent.AgentEvent
import Holonight.Agent.AgentEventJson
import Holonight.Agent.AgentRun
import Holonight.Agent.Agentd
import Holonight.Agent.AgentdLoop
import Holonight.Agent.BindingHistory
import Holonight.Agent.BoundedText
import Holonight.Agent.NotificationBridge
import Holonight.Agent.ProcessAncestry
import Holonight.Agent.ProviderNormalizer
import Holonight.Agent.ProviderPayloads
import Holonight.Agent.SessionHistory
import Holonight.Agent.SessionRecords
import Holonight.Agent.SessionRegistry
import Holonight.Agent.Signals
import Holonight.Base.Binary64
import Holonight.Base.Bytes
import Holonight.Base.CppLib
import Holonight.Base.DirectoryWalk
import Holonight.Base.Exceptions
import Holonight.Base.Json
import Holonight.Base.JsonLibrary
import Holonight.Base.JsonParser
import Holonight.Base.JsonRoundTrip
import Holonight.Base.Machine
import Holonight.Base.Numbers
import Holonight.Base.UnorderedMap
import Holonight.Base.Windows
import Holonight.Base.Words
import Holonight.Config.Application
import Holonight.Health.Coredumps
import Holonight.Health.Daemon
import Holonight.Health.DaemonLoop
import Holonight.Health.DaemonOptions
import Holonight.Health.DaemonStore
import Holonight.Health.DaemonTurns
import Holonight.Health.Diagnosis
import Holonight.Health.Evaluation
import Holonight.Health.EventDraft
import Holonight.Health.Evidence
import Holonight.Health.FilesystemScanner
import Holonight.Health.Flapping
import Holonight.Health.FlappingWindow
import Holonight.Health.HealthCheckJob
import Holonight.Health.MeminfoAlarm
import Holonight.Health.MemoryCollector
import Holonight.Health.MountDiscovery
import Holonight.Health.MountMetrics
import Holonight.Health.OomAccount
import Holonight.Health.OrphanScan
import Holonight.Health.PackageFindings
import Holonight.Health.PackageScan
import Holonight.Health.PacmanCollector
import Holonight.Health.PassDiagnosis
import Holonight.Health.Pressure
import Holonight.Health.Retention
import Holonight.Health.RuleEngine
import Holonight.Health.RuleLoading
import Holonight.Health.RuleSets
import Holonight.Health.StatusCheck
import Holonight.Health.StorageCollector
import Holonight.Health.SystemdCollector
import Holonight.Health.ValueComparison
import Holonight.Process.CommandLoop
import Holonight.Process.CommandTrace
import Holonight.Storage.Capacity
import Holonight.Storage.EventCodec
import Holonight.Storage.EventStore
import Holonight.Storage.Export
import Holonight.Storage.History
import Holonight.Storage.ObservationEvent
import Holonight.Storage.ObservationJson
import Holonight.Storage.PruneRuns
import Holonight.Storage.Query
import Holonight.Storage.Statements
import Holonight.Storage.StoredNumbers
import Holonight.Storage.Table
import Holonight.Storage.Transactions
