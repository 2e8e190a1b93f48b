import Lium.Incentive.RentalPrice
import Lium.Incentive.GateFrame
import Lium.Incentive.Preparation
import Lium.Incentive.Expansion
import Lium.Incentive.PoolTotals
import Lium.Foundation.CellSums
import Lium.Incentive.Run
import Lium.Incentive.Reassignment
import Lium.Foundation.ProRata
import Lium.Incentive.Settlement
import Lium.Incentive.Payment
import Lium.Incentive.Readability
import Lium.Incentive.Conservation
import Lium.Incentive.FillerErasure
import Lium.Incentive.TwoRuns
import Lium.Incentive.NonInterference
import Lium.Incentive.OrderIndependence
import Lium.Incentive.SplitRoundTrip
import Lium.Incentive.Formula
import Lium.Foundation.Grouping
import Lium.Validator.DuplicateExecutor
import Lium.Incentive.Snapshot
import Lium.Validator.SettleCycle
import Lium.Validator.SnapshotDenominators
import Lium.Incentive.Estimate
import Lium.Incentive.SnapshotSeed
import Lium.Incentive.FleetAppend
import Lium.Incentive.Denominators
import Lium.Incentive.AppendedRun
import Lium.Incentive.Hypothetical
import Lium.Incentive.IdleEstimate
import Lium.Validator.GpuAlias
import Lium.Validator.OneExecutorPerGpu
import Lium.Validator.OneMinerPerExecutor
import Lium.Validator.SettleAppend
import Lium.Validator.RentedEstimate
import Lium.Foundation.Transfer
import Lium.Incentive.FinalWeights
import Lium.Incentive.ReferralPool
import Lium.Incentive.Exclusion
import Lium.Validator.NodeShares
import Lium.Foundation.Coroutine
import Lium.Validator.ExecutorRollout
import Lium.Validator.RolloutGrace
import Lium.Validator.Availability
import Lium.Validator.EarlyPublish
import Lium.Validator.SettledWindows
import Lium.Validator.CycleReports
import Lium.Validator.KeptReports
import Lium.Validator.EditKeepsContainer
import Lium.Validator.DeleteRace
import Lium.Validator.DeleteBeatsCreate
import Lium.Foundation.Lanes
import Lium.Validator.Pipeline
import Lium.Validator.LaneFootprint
import Lium.Validator.ParallelStage
import Lium.Validator.ExpressLane
import Lium.Validator.LanesExclusive
import Lium.Validator.ExpressCaps
import Lium.Validator.OverlappingTicks
import Lium.Foundation.ReadModifyWrite
import Lium.Validator.PendingPods
import Lium.Foundation.ExpiringKey
import Lium.Validator.BackendCommands
import Lium.Validator.CommandLease
import Lium.Validator.GpuLossHold
import Lium.Validator.LoadTestOwed
import Lium.Validator.DropIncidents
import Lium.Validator.IncidentsExact
import Lium.Validator.PortDeferral
import Lium.Foundation.Purge
import Lium.Validator.RentalProbe
import Lium.Validator.UuidReplay
import Lium.Validator.VerifyXVerdict
import Lium.Validator.VolumeSizing
import Lium.Foundation.PinnedPairs
import Lium.Validator.AttestationIdentity
import Lium.Validator.AttestationRuns
import Lium.Validator.AttestedPins
import Lium.Validator.BoardSerials
import Lium.Executor.UploadedKeys
import Lium.Validator.TenantEnforcement
import Lium.Validator.TenantOrder
import Lium.Validator.RestartResumes
import Lium.Validator.ResumeBound
import Lium.Validator.UntimelyDeliveries
import Lium.Foundation.CappedMoves
import Lium.Incentive.BucketPass
import Lium.Incentive.SpotPool
import Lium.Validator.EmittedWeights
import Lium.Validator.MiningBound
import Lium.Validator.PortMappings
import Lium.Validator.DiskFit
import Lium.Validator.BlindStreak
import Lium.Validator.GpuAnchor
import Lium.Validator.ThermalHold
import Lium.Validator.RentalDevices
import Lium.Validator.SettledOnce
