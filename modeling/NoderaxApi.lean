import NoderaxApi.Runs
import NoderaxApi.Interleaving
import NoderaxApi.KeyedTable
import NoderaxApi.Common
import NoderaxApi.NodeEntity
import NoderaxApi.RootAccess
import NoderaxApi.RootAccessGrants
import NoderaxApi.TaskEntity
import NoderaxApi.TaskTransitions
import NoderaxApi.TasksService
import NoderaxApi.TaskMachine
import NoderaxApi.TaskStatusMachine
import NoderaxApi.TaskLease
import NoderaxApi.TaskCalls
import NoderaxApi.TaskRaces
import NoderaxApi.ClaimPolls
import NoderaxApi.Histories
import NoderaxApi.AgentToken
import NoderaxApi.AgentTokenHistory
import NoderaxApi.AgentTokenLifecycle
import NoderaxApi.AgentRealtime
import NoderaxApi.TaskIsolation
import NoderaxApi.TaskEventIsolation
import NoderaxApi.LifecycleIsolation
import NoderaxApi.LifecycleDelivery
import NoderaxApi.SignedTokens
import NoderaxApi.Base32
import NoderaxApi.HotpCodes
import NoderaxApi.Doubles
import NoderaxApi.TotpVerifier
import NoderaxApi.AuthService
import NoderaxApi.SecondFactor
import NoderaxApi.Outbox
import NoderaxApi.OutboxRaces
import NoderaxApi.OutboxRetries
import NoderaxApi.RealtimeFanOut
import NoderaxApi.EventDelivery
import NoderaxApi.ScheduledTaskOccurrences
import NoderaxApi.ScheduledTaskPasses
import NoderaxApi.ScheduledTaskCalls
import NoderaxApi.ScheduledTaskClaims
import NoderaxApi.AgentUpdates
import NoderaxApi.AgentUpdateCalls
import NoderaxApi.AgentUpdateSoundness
import NoderaxApi.AgentUpdateCopies
import NoderaxApi.AgentUpdateRaces
import NoderaxApi.NodeSettings
import NoderaxApi.NodeSettingsRaces
import NoderaxApi.AgentUpdateTerminal
import NoderaxApi.TerminalSanitizer
import NoderaxApi.TerminalSessions
import NoderaxApi.TerminalTranscript
import NoderaxApi.AsyncPrograms
import NoderaxApi.TerminalCommandAudit
import NoderaxApi.TerminalSessionCalls
import NoderaxApi.TerminalLifecycle
import NoderaxApi.TerminalCopies
import NoderaxApi.TerminalCapacity
import NoderaxApi.PendingWeights
import NoderaxApi.TerminalControllers
import NoderaxApi.TerminalConnectTokens
import NoderaxApi.AgentSocketMaps
import NoderaxApi.AgentNodeRoutes
import NoderaxApi.UserAccountCalls
import NoderaxApi.UserAccountSteps
import NoderaxApi.SessionVersions
import NoderaxApi.AdminRetention
import NoderaxApi.ReadCommitted
import NoderaxApi.RecoveryCodes
import NoderaxApi.AccountTokenUse
import NoderaxApi.NodeInstallStatus
import NoderaxApi.Enrollments
import NoderaxApi.EnrollmentRaces
import NoderaxApi.Workspaces
import NoderaxApi.DefaultWorkspace
import NoderaxApi.TeamMemberRaces
import NoderaxApi.InstallState
import NoderaxApi.PlatformSettings
import NoderaxApi.SetupInstall
import NoderaxApi.SetupRetry
import NoderaxApi.BootEnvironment
import NoderaxApi.ClusterLocks
import NoderaxApi.ControlPlaneCalls
import NoderaxApi.ControlPlaneOperations
import NoderaxApi.AuditReconciliation
import NoderaxApi.RolloutExclusion
import NoderaxApi.RealtimeSequences
import NoderaxApi.CivilDates
import NoderaxApi.ScheduledTaskUtils
import NoderaxApi.StepFunctions
import NoderaxApi.FirstLevels
import NoderaxApi.NextRuns
import NoderaxApi.LocalOccurrences
import NoderaxApi.FutureRuns
import NoderaxApi.OperationalRootGate
import NoderaxApi.StaleTasks
import NoderaxApi.NodeLocations
import NoderaxApi.NodeReports
import NoderaxApi.TerminalCommandLines
import NoderaxApi.TerminalOutputSplits
import NoderaxApi.InstallCommand
import NoderaxApi.PackageParsers
import NoderaxApi.PackageListings
import NoderaxApi.PackageListTasks
import NoderaxApi.BatchTasks
import NoderaxApi.CorsAllowList
import NoderaxApi.FixedWindows
import NoderaxApi.LocationFixedPoints
import NoderaxApi.TerminalRateLimits
import NoderaxApi.AgentReleases
import NoderaxApi.AtomicFiles
import NoderaxApi.Base64Url
import NoderaxApi.BootstrapAgreement
import NoderaxApi.InstallerFiles
import NoderaxApi.OidcBindings
import NoderaxApi.RealtimeRooms
import NoderaxApi.ReleaseCatalogs
import NoderaxApi.SecretsUtil
import NoderaxApi.MetricsRetention
import NoderaxApi.RetentionWindows
import NoderaxApi.WorkspaceIsolation
import NoderaxApi.MarkupReader
import NoderaxApi.NotificationReading
