/-
  DmSimulator.Sim.Config

  Configuration records (`sim/config.hpp`, `workloads/workload.hpp`).  A C++
  `double` is an exact rational.
-/
import DmSimulator.Lib.UnorderedMap
import DmSimulator.Model.Request
import Mathlib.Data.Rat.Defs

namespace DmSimulator

inductive LocalCachePolicyType
  | alwaysRemote
  | lru
  | hotnessOnly
  | globalHottestReplication
  | contentionAware
deriving DecidableEq, Repr

inductive HotnessHistoryMode
  | epoch
  | cumulative
  | windowed
deriving DecidableEq, Repr

structure HotnessPolicyConfig where
  minAdmitCount : Nat := 2
  historyMode : HotnessHistoryMode := .epoch
  historyWindowEpochs : Nat := 4
deriving DecidableEq, Repr

structure ContentionPolicyWeights where
  localHotnessWeight : Rat := 1
  remoteAccessWeight : Rat := 1
  distinctRequesterWeight : Rat := 3 / 2
  queueWaitWeight : Rat := 2
  remoteServiceTimeWeight : Rat := 1
  sizePenaltyWeight : Rat := 1 / 2
  costDensityWeight : Rat := 0
deriving DecidableEq, Repr

inductive ContentionPolicyVariant
  | v1
  | smoothed
  | reuseGated
  | hysteresis
  | smoothedReuseGated
deriving DecidableEq, Repr

structure ContentionPolicyConfig where
  weights : ContentionPolicyWeights := {}
  variant : ContentionPolicyVariant := .v1
  minAdmitScore : Rat := 1
  localHotnessThreshold : Nat := 2
  resetOnEpochChange : Bool := true
  telemetryHistoryEpochs : Nat := 1
  telemetryDecay : Rat := 1
  localReuseGateThreshold : Nat := 2
  localConfirmationWindowEpochs : Nat := 2
  localConfirmationBypassScoreMargin : Rat := 1
  evictionScoreMargin : Rat := 0
deriving DecidableEq, Repr

structure LocalCacheConfig where
  capacityBytes : Nat := 0
  hitLatency : SimTime := 1
  policyType : LocalCachePolicyType := .alwaysRemote
  hotness : HotnessPolicyConfig := {}
  contention : ContentionPolicyConfig := {}
deriving DecidableEq, Repr

structure ComputeNodeConfig where
  nodeId : NodeId := 0
  requests : List RequestSpec := []
deriving DecidableEq, Repr

inductive HotSetMode
  | static
  | epochShift
deriving DecidableEq, Repr

inductive CrossNodeOverlap
  | low
  | medium
  | high
deriving DecidableEq, Repr

inductive ObjectSizeMode
  | fixed
  | bimodal
deriving DecidableEq, Repr

/-- Whether a node issues its next request on completion of the previous one or
    follows a precomputed arrival schedule. -/
inductive WorkloadIssueMode
  | completionDriven
  | scheduledBursty
deriving DecidableEq, Repr

structure SyntheticWorkloadConfig where
  seed : Nat := 1
  computeNodeIds : List NodeId := []
  objectCount : Nat := 0
  memoryChannelCount : Nat := 1
  objectSizeBytes : Nat := 64
  hotSetChurnFraction : Rat := 1
  hotObjectChannelCount : Nat := 0
  objectSizeMode : ObjectSizeMode := .fixed
  objectSizeSmallBytes : Nat := 64
  objectSizeLargeBytes : Nat := 256
  largeObjectProbability : Rat := 1 / 10
  issueMode : WorkloadIssueMode := .completionDriven
  burstSize : Nat := 4
  burstInterval : SimTime := 100
  intraBurstGap : SimTime := 1
  nodePhaseJitter : SimTime := 0
  requestsPerNodePerEpoch : Nat := 0
  epochCount : EpochId := 1
  hotSetSize : Nat := 0
  hotAccessProbability : Rat := 4 / 5
  hotSetMode : HotSetMode := .static
  crossNodeOverlap : CrossNodeOverlap := .high
deriving DecidableEq, Repr

structure SimulationConfig where
  computeNodes : List ComputeNodeConfig := []
  memoryNodeId : NodeId := 2
  oneWayLinkLatency : SimTime := 5
  memoryBaseLatency : SimTime := 20
  memoryBandwidthBytesPerTime : Nat := 16
  localCache : LocalCacheConfig := {}
  syntheticWorkload : Option SyntheticWorkloadConfig := none
  memoryChannelCount : Nat := 1
deriving DecidableEq, Repr

end DmSimulator
