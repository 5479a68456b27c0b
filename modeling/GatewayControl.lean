import GatewayControl.AgentLoop
import GatewayControl.AtMostOnce
import GatewayControl.Host
import GatewayControl.StackRestore
import GatewayControl.RestoreJournal
import GatewayControl.ComposePolicy
import GatewayControl.ComposeModel
import GatewayControl.HostIsolation
import GatewayControl.BackupHelper
import GatewayControl.BackupRoundTrip
import GatewayControl.Database
import GatewayControl.Store
import GatewayControl.LockStep
import GatewayControl.Placement
import GatewayControl.AgentRoutes
import GatewayControl.Acceptance
import GatewayControl.AccessHistory
import GatewayControl.DnsEnable
import GatewayControl.DnsSafety
import GatewayControl.PublishedRecords
import GatewayControl.TunnelNames
import GatewayControl.TunnelContents
import GatewayControl.AccessTopology
import GatewayControl.ActiveAccesses
import GatewayControl.ActiveSafety
import GatewayControl.AgentContact
import GatewayControl.Identity
import GatewayControl.IdentityAttempts
import GatewayControl.IdentityOutage
import GatewayControl.Outbox
import GatewayControl.OutboxRows
import GatewayControl.OutboxRuns
import GatewayControl.OutboxService
import GatewayControl.TickSafety
import GatewayControl.DeploymentHistory
import GatewayControl.Exclusion
import GatewayControl.FailureEvents
import GatewayControl.ApplyRuns
import GatewayControl.BackupCompleteness
import GatewayControl.CompleteBackup
import GatewayControl.ConfirmedRestore
import GatewayControl.MigrationRunner
import GatewayControl.MigrationRuns
import GatewayControl.MigrationSafety
import GatewayControl.RecoveryProgress
import GatewayControl.StagingProgress
import GatewayControl.AcceptedBackups
import GatewayControl.Extraction
import GatewayControl.IngressEdits
import GatewayControl.RestoredTree
import GatewayControl.StackServices
import GatewayControl.UniqueNames
import GatewayControl.BackendTargets
import GatewayControl.ClosedCompose
import GatewayControl.SecurityOptions
import GatewayControl.SyncedZones
import GatewayControl.Base64
import GatewayControl.Collector
import GatewayControl.ConnectorReplacement
import GatewayControl.CpuUsage
import GatewayControl.DeploymentApply
import GatewayControl.DeploymentCompensation
import GatewayControl.JsonText
import GatewayControl.RuntimeAction
import GatewayControl.RuntimeTargets
import GatewayControl.ServiceAlarms
import GatewayControl.ServiceCounts
import GatewayControl.TokenDocuments
import GatewayControl.AgentPayloads
import GatewayControl.AgentReferences
import GatewayControl.CleanRemoval
import GatewayControl.ExportLimit
import GatewayControl.GitSource
import GatewayControl.RecoveryAgreement
import GatewayControl.SourceUrls
import GatewayControl.TopologyDecisions
import GatewayControl.TrailingData
import GatewayControl.CanonicalIp
import GatewayControl.OneForm
import GatewayControl.RelativePaths
import GatewayControl.RootOverlap
import GatewayControl.ConnectorNames
import GatewayControl.GuidedPublish
import GatewayControl.GuidedRuns
import GatewayControl.CleanedAttempts
import GatewayControl.FileProvider
import GatewayControl.RouteDirectory
import GatewayControl.ServedRoutes
import GatewayControl.ActiveRoutes
import GatewayControl.CommandQueue
import GatewayControl.CommandResults
import GatewayControl.ExactResults
