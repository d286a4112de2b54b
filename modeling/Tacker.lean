import Tacker.Basis.Run
import Tacker.Basis.Table
import Tacker.Basis.Listing
import Tacker.Basis.Regex
import Tacker.Basis.Decides
import Tacker.Basis.ForEach
import Tacker.Objects.VnfInstance
import Tacker.Objects.LcmOpOcc
import Tacker.Lcm.Database
import Tacker.Lcm.Driver
import Tacker.Lcm.System
import Tacker.Lcm.Steps
import Tacker.Lcm.Copies
import Tacker.Lcm.Invariant
import Tacker.Lcm.Exclusion
import Tacker.Lcm.Sequential
import Tacker.Lcm.GrantRecords
import Tacker.Lcm.Attendance
import Tacker.Lcm.Endings
import Tacker.Lcm.ScaleLevels
import Tacker.Openstack.InstInfo
import Tacker.Openstack.Rollback
import Tacker.OpOcc.UpdateLcmocc
import Tacker.OpOcc.ExactDifference
import Tacker.View.ParseFilter
import Tacker.View.FilterReading
import Tacker.View.FilterRoundTrip
import Tacker.Subsc.MatchFilter
import Tacker.Subsc.MatchedSubscs
import Tacker.Conductor.ChangeLcmOpState
import Tacker.Conductor.Recovery
import Tacker.Basis.Attempt
import Tacker.Basis.Json
import Tacker.Basis.MergePatch
import Tacker.UserData.Params
import Tacker.UserData.Standard
import Tacker.UserData.Template
import Tacker.UserData.NewCps
import Tacker.UserData.ConnRollback
import Tacker.UserData.History
import Tacker.UserData.Leftovers
import Tacker.UserData.LinkEffects
import Tacker.UserData.VnfpkgRollback
import Tacker.UserData.VduResources
import Tacker.UserData.ScaleRollback
import Tacker.UserData.Indices
import Tacker.UserData.GrantRequests
import Tacker.UserData.Contiguous
import Tacker.UserData.IndexRun
import Tacker.Kubernetes.PodNames
import Tacker.Kubernetes.SyncDb
import Tacker.Kubernetes.SyncedLevels
import Tacker.Kubernetes.Operations
import Tacker.Kubernetes.Replicas
import Tacker.Kubernetes.ReplicaRun
import Tacker.Basis.Sequence
import Tacker.Fields.Kinds
import Tacker.Fields.RoundTrip
import Tacker.Fields.Classes
import Tacker.Basis.Edit
import Tacker.Fields.Places
import Tacker.Fields.Columns
import Tacker.Crypt.CryptUtils
import Tacker.Crypt.PassRules
import Tacker.Crypt.Hooks
import Tacker.Crypt.CredentialRoundTrip
import Tacker.Crypt.SubscPasses
import Tacker.Crypt.SubscRoundTrip
import Tacker.Basis.Paths
import Tacker.View.Selector
import Tacker.View.SelectedFields
import Tacker.View.Redaction
import Tacker.View.RedactedViews
import Tacker.View.ShownAndListed
import Tacker.Basis.InFlight
import Tacker.Pm.JobReports
import Tacker.Heal.Timers
import Tacker.Heal.SafeSteps
import Tacker.Heal.References
import Tacker.Heal.Expirations
import Tacker.Heal.NoIdLost
import Tacker.Nfvo.CsarCache
import Tacker.Nfvo.CacheInvariant
import Tacker.Nfvo.CacheSteps
import Tacker.Nfvo.CacheRuns
import Tacker.Basis.Leading
import Tacker.Basis.SelfDelimiting
import Tacker.Grant.Vnfd
import Tacker.Grant.Resources
import Tacker.Grant.Blocks
import Tacker.Grant.PlacementConstraints
import Tacker.Grant.RemovedVnfcs
import Tacker.Grant.Placement
import Tacker.Grant.RequestBlocks
import Tacker.Grant.Counts
import Tacker.Grant.Handles
import Tacker.Grant.Requests
import Tacker.Grant.Accuracy
import Tacker.Basis.Places
import Tacker.Fm.Alarms
import Tacker.Fm.AlarmSteps
import Tacker.Fm.TracedAlarms
import Tacker.Fm.AlarmRuns
import Tacker.Openstack.Reselection
import Tacker.Openstack.Compliance
import Tacker.Kubernetes.Namespaces
import Tacker.Kubernetes.Ownership
import Tacker.Basis.Sorting
import Tacker.Vnfc.HeatReses
import Tacker.Vnfc.Order
import Tacker.Vnfc.Storages
import Tacker.UserData.References
import Tacker.UserData.LinksApplied
import Tacker.UserData.NoDangling
import Tacker.Vnfc.Infos
import Tacker.Vnfc.InfoIds
import Tacker.Kubernetes.Renewed
import Tacker.Vnfc.KeptProperties
import Tacker.Basis.Merged
import Tacker.Modify.ModifyInfo
import Tacker.Modify.MergedInfo
import Tacker.Modify.ChangedInfo
import Tacker.Modify.ModifyRuns
import Tacker.Basis.Overlay
import Tacker.OpParams.Phases
import Tacker.OpParams.Effects
import Tacker.OpParams.ParamsKept
import Tacker.UserData.Default
import Tacker.UserData.CpValues
import Tacker.UserData.CpCalls
import Tacker.OpOcc.ModifiedVnfcs
import Tacker.Patch.Rfc7396
import Tacker.Patch.JsonMergePatch
import Tacker.Patch.RfcCompliance
import Tacker.Basis.Collected
import Tacker.Prometheus.Alerts
import Tacker.Prometheus.SpacedReports
import Tacker.Prometheus.ThresholdAlerts
import Tacker.Prometheus.CrossingSequences
import Tacker.Prometheus.ThresholdRuns
import Tacker.Prometheus.AlertHandlers
import Tacker.Prometheus.BatchEffects
import Tacker.View.Selection
import Tacker.View.ExactSelection
import Tacker.View.MatchFilter
import Tacker.View.FreshMatching
import Tacker.View.FilteredList
import Tacker.Basis.Leaves
import Tacker.UserData.NfvPaths
import Tacker.Rules.MakeRules
import Tacker.Rules.Pairs
import Tacker.Rules.ExactRules
import Tacker.Basis.Supply
import Tacker.Vnflcm.InstantiatedInfo
import Tacker.Vnflcm.LinkPorts
import Tacker.Vnflcm.Consistency
import Tacker.Vnflcm.ChangeExtConn
import Tacker.Grant.LinkPorts
import Tacker.Basis.Renaming
import Tacker.Casing.KeyNames
import Tacker.Casing.JsonKeys
import Tacker.Filters.Expressions
import Tacker.Filters.KeyValuePairs
import Tacker.Basis.ShiftReduce
import Tacker.Filters.ParseState
import Tacker.Filters.Grammar
import Tacker.Filters.Raises
import Tacker.Basis.Splitting
import Tacker.Filters.QuotedValues
import Tacker.Filters.Pieces
import Tacker.Filters.FilterStrings
import Tacker.Basis.Transaction
import Tacker.Migration.Database
import Tacker.Migration.Records
import Tacker.Migration.Progress
import Tacker.Migration.Rerun
import Tacker.Migration.HalfWay
import Tacker.Basis.Tally
import Tacker.Vnfpkgm.LoadCsar
import Tacker.Vnfpkgm.Undisturbed
import Tacker.Vnfpkgm.Onboarding
import Tacker.Vnfpkgm.Registered
import Tacker.Vnfpkgm.Requests
import Tacker.Vnfpkgm.Wedged
import Tacker.Usage.UsageStates
import Tacker.Usage.Settling
import Tacker.Usage.Effects
import Tacker.Usage.Registrations
import Tacker.Usage.InUse
import Tacker.Basis.Paging
import Tacker.View.Lists
import Tacker.View.Pages
import Tacker.View.Limits
