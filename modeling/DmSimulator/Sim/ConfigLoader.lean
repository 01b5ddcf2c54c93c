/-
  DmSimulator.Sim.ConfigLoader

  The loader of experiment configurations (`sim/config_loader.cpp`).

  The YAML library is a parameter: the reader of a document and the conversions of
  a node.  A missing file is not modelled; a file is its contents.
-/
import DmSimulator.Lib.YamlBlock
import DmSimulator.Sim.Config

namespace DmSimulator

open Yaml

structure ExperimentConfig where
  name : String
  outputDir : String
  simulation : SimulationConfig
deriving DecidableEq, Repr

/-- What the loader throws.  `notFinite` stands for the infinite or NaN
    `hot_access_probability` that it accepts: the configuration has no value for it. -/
inductive LoadError
  | invalidArgument (message : String)
  | yamlException (what : String)
  | notFinite
deriving DecidableEq, Repr

/-- What the loader uses of yaml-cpp.  An error is the `what()` of the exception, and a
    double that is not finite is `none`.  `asU32` is `as<NodeId>`; the other unsigned types
    have 64 bits. -/
structure YamlCpp where
  load : String → Except String Node
  badSubscript : Node → String → String
  asU32 : Node → Except String Nat
  asU64 : Node → Except String Nat
  asDouble : Node → Except String (Option Rat)
  asBool : Node → Except String Bool
  asString : Node → Except String String

namespace YamlCpp

variable (yaml : YamlCpp) {T : Type}

/-- `node[key]`. -/
def child (node : Node) (key : String) : Except LoadError (Option Node) :=
  match node with
  | .map entries => return entries.lookup key
  | .scalar _ => throw (.yamlException (yaml.badSubscript node key))
  | .null | .sequence _ => return none

/-- `node.as<T>()`, its exception left to the caller. -/
def convert (read : Node → Except String T) (node : Node) : Except LoadError T :=
  match read node with
  | .ok value => return value
  | .error what => throw (.yamlException what)

def requiredChild (node : Node) (key context : String) : Except LoadError Node := do
  match ← yaml.child node key with
  | none => throw (.invalidArgument s!"Missing required config field: {context}.{key}")
  | some child => return child

def requiredAs (read : Node → Except String T) (node : Node) (key context : String) :
    Except LoadError T := do
  let child ← yaml.requiredChild node key context
  match read child with
  | .ok value => return value
  | .error what =>
      throw (.invalidArgument s!"Invalid value for config field {context}.{key}: {what}")

/-- A field that keeps its value when it is not given. -/
def optionalAs (read : Node → Except LoadError T) (node : Node) (key : String) (current : T) :
    Except LoadError T := do
  match ← yaml.child node key with
  | none => return current
  | some child => read child

/-- An optional field whose value is checked. -/
def optionalChecked {S : Type} (read : Node → Except String S) (accept : S → Option T)
    (expected : String) (node : Node) (key context : String) (current : T) : Except LoadError T :=
  yaml.optionalAs (fun child => do
    match accept (← convert read child) with
    | some value => return value
    | none => throw (.invalidArgument s!"Invalid {context}.{key}: expected {expected}"))
    node key current

def optionalNonnegativeDouble (node : Node) (key context : String) (current : Rat) :
    Except LoadError Rat :=
  yaml.optionalChecked yaml.asDouble (Option.filter (fun value => 0 ≤ value))
    "a nonnegative finite number" node key context current

def optionalProbability (node : Node) (key context : String) (current : Rat) :
    Except LoadError Rat :=
  yaml.optionalChecked yaml.asDouble (Option.filter (fun value => 0 ≤ value && value ≤ 1))
    "a finite number in [0, 1]" node key context current

def optionalPositiveU64 (node : Node) (key context : String) (current : Nat) :
    Except LoadError Nat :=
  yaml.optionalChecked yaml.asU64 (Option.guard (fun value => value ≠ 0)) "a positive integer"
    node key context current

-- ============================================================================
-- Named values
-- ============================================================================

/-- The parsers of named values. -/
def parseNamed (names : List (String × T)) (message value : String) : Except LoadError T :=
  match names.lookup value with
  | some parsed => return parsed
  | none => throw (.invalidArgument message)

def localCachePolicyNames : List (String × LocalCachePolicyType) :=
  [("always_remote", .alwaysRemote), ("lru", .lru), ("hotness_only", .hotnessOnly),
    ("global_hottest_replication", .globalHottestReplication),
    ("contention_aware", .contentionAware)]

def parseLocalCachePolicy : String → Except LoadError LocalCachePolicyType :=
  parseNamed localCachePolicyNames
    "Invalid local_cache.policy: expected always_remote, lru, hotness_only, global_hottest_replication, or contention_aware"

def hotnessHistoryModeNames : List (String × HotnessHistoryMode) :=
  [("epoch", .epoch), ("cumulative", .cumulative), ("windowed", .windowed)]

def parseHotnessHistoryMode : String → Except LoadError HotnessHistoryMode :=
  parseNamed hotnessHistoryModeNames
    "Invalid local_cache.hotness.history_mode: expected epoch, cumulative, or windowed"

def contentionPolicyVariantNames : List (String × ContentionPolicyVariant) :=
  [("v1", .v1), ("smoothed", .smoothed), ("reuse_gated", .reuseGated),
    ("hysteresis", .hysteresis), ("smoothed_reuse_gated", .smoothedReuseGated)]

def parseContentionPolicyVariant : String → Except LoadError ContentionPolicyVariant :=
  parseNamed contentionPolicyVariantNames
    "Invalid local_cache.contention.variant: expected v1, smoothed, reuse_gated, hysteresis, or smoothed_reuse_gated"

def hotSetModeNames : List (String × HotSetMode) :=
  [("static", .static), ("epoch_shift", .epochShift)]

def parseHotSetMode : String → Except LoadError HotSetMode :=
  parseNamed hotSetModeNames "Invalid workload.hot_set_mode: expected static or epoch_shift"

def crossNodeOverlapNames : List (String × CrossNodeOverlap) :=
  [("low", .low), ("medium", .medium), ("high", .high)]

def parseCrossNodeOverlap : String → Except LoadError CrossNodeOverlap :=
  parseNamed crossNodeOverlapNames
    "Invalid workload.cross_node_overlap: expected low, medium, or high"

def objectSizeModeNames : List (String × ObjectSizeMode) :=
  [("fixed", .fixed), ("bimodal", .bimodal)]

def parseObjectSizeMode : String → Except LoadError ObjectSizeMode :=
  parseNamed objectSizeModeNames "Invalid workload.object_size_mode: expected fixed or bimodal"

def workloadIssueModeNames : List (String × WorkloadIssueMode) :=
  [("completion_driven", .completionDriven), ("scheduled_bursty", .scheduledBursty)]

def parseWorkloadIssueMode : String → Except LoadError WorkloadIssueMode :=
  parseNamed workloadIssueModeNames
    "Invalid workload.issue_mode: expected completion_driven or scheduled_bursty"

/-- An optional named value. -/
def optionalNamed (parse : String → Except LoadError T) (node : Node) (key : String)
    (current : T) : Except LoadError T :=
  yaml.optionalAs (fun child => do parse (← convert yaml.asString child)) node key current

/-- A required named value. -/
def requiredNamed (parse : String → Except LoadError T) (node : Node) (key context : String) :
    Except LoadError T := do
  parse (← yaml.requiredAs yaml.asString node key context)

-- ============================================================================
-- Sections
-- ============================================================================

def parseHotnessPolicyConfig (localCacheNode : Node) : Except LoadError HotnessPolicyConfig := do
  let config : HotnessPolicyConfig := {}
  match ← yaml.child localCacheNode "hotness" with
  | none => return config
  | some node =>
      let minAdmitCount ←
        yaml.optionalAs (convert yaml.asU64) node "min_admit_count" config.minAdmitCount
      if (← yaml.child node "reset_on_epoch_change").isSome then
        throw (.invalidArgument
          "Deprecated config field local_cache.hotness.reset_on_epoch_change: use local_cache.hotness.history_mode instead")
      let historyMode ←
        yaml.optionalNamed parseHotnessHistoryMode node "history_mode" config.historyMode
      let historyWindowEpochs ← yaml.optionalPositiveU64 node "history_window_epochs"
        "local_cache.hotness" config.historyWindowEpochs
      return { minAdmitCount, historyMode, historyWindowEpochs }

def parseContentionWeights (node : Node) (weights : ContentionPolicyWeights) :
    Except LoadError ContentionPolicyWeights := do
  let context := "local_cache.contention"
  let localHotnessWeight ← yaml.optionalNonnegativeDouble node "local_hotness_weight" context
    weights.localHotnessWeight
  let remoteAccessWeight ← yaml.optionalNonnegativeDouble node "remote_access_weight" context
    weights.remoteAccessWeight
  let distinctRequesterWeight ← yaml.optionalNonnegativeDouble node "distinct_requester_weight"
    context weights.distinctRequesterWeight
  let queueWaitWeight ← yaml.optionalNonnegativeDouble node "queue_wait_weight" context
    weights.queueWaitWeight
  let remoteServiceTimeWeight ← yaml.optionalNonnegativeDouble node
    "remote_service_time_weight" context weights.remoteServiceTimeWeight
  let sizePenaltyWeight ← yaml.optionalNonnegativeDouble node "size_penalty_weight" context
    weights.sizePenaltyWeight
  let costDensityWeight ← yaml.optionalNonnegativeDouble node "cost_density_weight" context
    weights.costDensityWeight
  return { localHotnessWeight, remoteAccessWeight, distinctRequesterWeight, queueWaitWeight,
           remoteServiceTimeWeight, sizePenaltyWeight, costDensityWeight }

def parseContentionPolicyConfig (localCacheNode : Node) :
    Except LoadError ContentionPolicyConfig := do
  let config : ContentionPolicyConfig := {}
  let context := "local_cache.contention"
  match ← yaml.child localCacheNode "contention" with
  | none => return config
  | some node =>
      let variant ← yaml.optionalNamed parseContentionPolicyVariant node "variant" config.variant
      let weights ← yaml.parseContentionWeights node config.weights
      let minAdmitScore ←
        yaml.optionalNonnegativeDouble node "min_admit_score" context config.minAdmitScore
      let localHotnessThreshold ← yaml.optionalPositiveU64 node "local_hotness_threshold" context
        config.localHotnessThreshold
      let resetOnEpochChange ← yaml.optionalAs (convert yaml.asBool) node
        "reset_on_epoch_change" config.resetOnEpochChange
      let telemetryHistoryEpochs ← yaml.optionalPositiveU64 node "telemetry_history_epochs"
        context config.telemetryHistoryEpochs
      let telemetryDecay ←
        yaml.optionalNonnegativeDouble node "telemetry_decay" context config.telemetryDecay
      let localReuseGateThreshold ← yaml.optionalPositiveU64 node "local_reuse_gate_threshold"
        context config.localReuseGateThreshold
      let localConfirmationWindowEpochs ← yaml.optionalPositiveU64 node
        "local_confirmation_window_epochs" context config.localConfirmationWindowEpochs
      let localConfirmationBypassScoreMargin ← yaml.optionalNonnegativeDouble node
        "local_confirmation_bypass_score_margin" context config.localConfirmationBypassScoreMargin
      let evictionScoreMargin ← yaml.optionalNonnegativeDouble node "eviction_score_margin"
        context config.evictionScoreMargin
      return { weights, variant, minAdmitScore, localHotnessThreshold, resetOnEpochChange,
               telemetryHistoryEpochs, telemetryDecay, localReuseGateThreshold,
               localConfirmationWindowEpochs, localConfirmationBypassScoreMargin,
               evictionScoreMargin }

def parseComputeNodeIds (workloadNode : Node) : Except LoadError (List NodeId) := do
  match ← yaml.requiredChild workloadNode "compute_node_ids" "workload" with
  | .sequence items => items.mapM (convert yaml.asU32)
  | _ => throw (.invalidArgument
      "Invalid workload.compute_node_ids: expected a YAML sequence")

/-- The value of `workload.hot_object_channel_count`. -/
def parseHotObjectChannelCount (memoryChannelCount : Nat) (node : Node) :
    Except LoadError Nat := do
  let count ← convert yaml.asU64 node
  if count > memoryChannelCount then
    throw (.invalidArgument
      "Invalid workload.hot_object_channel_count: expected a value no larger than memory.channel_count")
  return count

/-- The `local_cache` of the simulation. -/
def parseLocalCacheConfig (node : Node) : Except LoadError LocalCacheConfig := do
  let capacityBytes ← yaml.requiredAs yaml.asU64 node "capacity_bytes" "local_cache"
  let hitLatency ← yaml.requiredAs yaml.asU64 node "hit_latency" "local_cache"
  let policyType ← yaml.requiredNamed parseLocalCachePolicy node "policy" "local_cache"
  let hotness ← yaml.parseHotnessPolicyConfig node
  let contention ← yaml.parseContentionPolicyConfig node
  return { capacityBytes, hitLatency, policyType, hotness, contention }

/-- The `synthetic_workload` of the simulation. -/
def parseWorkloadConfig (node : Node) (memoryChannelCount : Nat) :
    Except LoadError SyntheticWorkloadConfig := do
  let workload : SyntheticWorkloadConfig := {}
  let seed ← yaml.requiredAs yaml.asU64 node "seed" "workload"
  let computeNodeIds ← yaml.parseComputeNodeIds node
  let objectCount ← yaml.requiredAs yaml.asU64 node "object_count" "workload"
  let objectSizeBytes ← yaml.requiredAs yaml.asU64 node "object_size_bytes" "workload"
  if objectSizeBytes = 0 then
    throw (.invalidArgument "Invalid workload.object_size_bytes: expected a positive integer")
  let hotSetChurnFraction ← yaml.optionalProbability node "hot_set_churn_fraction" "workload"
    workload.hotSetChurnFraction
  let hotObjectChannelCount ← yaml.optionalAs (yaml.parseHotObjectChannelCount memoryChannelCount)
    node "hot_object_channel_count" workload.hotObjectChannelCount
  let objectSizeMode ←
    yaml.optionalNamed parseObjectSizeMode node "object_size_mode" workload.objectSizeMode
  let objectSizeSmallBytes ← yaml.optionalPositiveU64 node "object_size_small_bytes" "workload"
    workload.objectSizeSmallBytes
  let objectSizeLargeBytes ← yaml.optionalPositiveU64 node "object_size_large_bytes" "workload"
    workload.objectSizeLargeBytes
  if objectSizeSmallBytes > objectSizeLargeBytes then
    throw (.invalidArgument
      "Invalid workload object size bounds: object_size_small_bytes must not exceed object_size_large_bytes")
  let largeObjectProbability ← yaml.optionalProbability node "large_object_probability"
    "workload" workload.largeObjectProbability
  let issueMode ← yaml.optionalNamed parseWorkloadIssueMode node "issue_mode" workload.issueMode
  let burstSize ← yaml.optionalPositiveU64 node "burst_size" "workload" workload.burstSize
  let burstInterval ←
    yaml.optionalPositiveU64 node "burst_interval" "workload" workload.burstInterval
  let intraBurstGap ←
    yaml.optionalAs (convert yaml.asU64) node "intra_burst_gap" workload.intraBurstGap
  let nodePhaseJitter ←
    yaml.optionalAs (convert yaml.asU64) node "node_phase_jitter" workload.nodePhaseJitter
  let requestsPerNodePerEpoch ←
    yaml.requiredAs yaml.asU64 node "requests_per_node_per_epoch" "workload"
  let epochCount ← yaml.requiredAs yaml.asU64 node "epoch_count" "workload"
  let hotSetSize ← yaml.requiredAs yaml.asU64 node "hot_set_size" "workload"
  let hotAccessProbability ←
    yaml.requiredAs yaml.asDouble node "hot_access_probability" "workload"
  let hotSetMode ← yaml.requiredNamed parseHotSetMode node "hot_set_mode" "workload"
  let crossNodeOverlap ←
    yaml.requiredNamed parseCrossNodeOverlap node "cross_node_overlap" "workload"
  match hotAccessProbability with
  | none => throw .notFinite
  | some hotAccessProbability =>
      return { seed, computeNodeIds, objectCount, memoryChannelCount, objectSizeBytes,
               hotSetChurnFraction, hotObjectChannelCount, objectSizeMode, objectSizeSmallBytes,
               objectSizeLargeBytes, largeObjectProbability, issueMode, burstSize, burstInterval,
               intraBurstGap, nodePhaseJitter, requestsPerNodePerEpoch, epochCount, hotSetSize,
               hotAccessProbability, hotSetMode, crossNodeOverlap }

/-- The configuration of a document. -/
def parseExperimentConfig (root : Node) : Except LoadError ExperimentConfig := do
  let experimentNode ← yaml.requiredChild root "experiment" "root"
  let memoryNode ← yaml.requiredChild root "memory" "root"
  let linkNode ← yaml.requiredChild root "link" "root"
  let localCacheNode ← yaml.requiredChild root "local_cache" "root"
  let workloadNode ← yaml.requiredChild root "workload" "root"
  let name ← yaml.requiredAs yaml.asString experimentNode "name" "experiment"
  let outputDir ← yaml.requiredAs yaml.asString experimentNode "output_dir" "experiment"
  let simulation : SimulationConfig := {}
  let memoryNodeId ← yaml.requiredAs yaml.asU32 memoryNode "node_id" "memory"
  let memoryBaseLatency ← yaml.requiredAs yaml.asU64 memoryNode "base_latency" "memory"
  let memoryBandwidthBytesPerTime ←
    yaml.requiredAs yaml.asU64 memoryNode "bandwidth_bytes_per_time" "memory"
  let memoryChannelCount ← yaml.optionalPositiveU64 memoryNode "channel_count" "memory"
    simulation.memoryChannelCount
  let oneWayLinkLatency ← yaml.requiredAs yaml.asU64 linkNode "one_way_latency" "link"
  let localCache ← yaml.parseLocalCacheConfig localCacheNode
  let workload ← yaml.parseWorkloadConfig workloadNode memoryChannelCount
  return { name, outputDir
           simulation :=
             { simulation with
               memoryNodeId, memoryBaseLatency, memoryBandwidthBytesPerTime, memoryChannelCount
               oneWayLinkLatency, localCache
               syntheticWorkload := some workload } }

/-- `load_experiment_config`, on the path and the contents of the file. -/
def loadExperimentConfig (path contents : String) : Except LoadError ExperimentConfig :=
  match yaml.load contents with
  | .error what =>
      throw (.invalidArgument ("Failed to load config file " ++ path ++ ": " ++ what))
  | .ok root => yaml.parseExperimentConfig root

def loadSimulationConfig (path contents : String) : Except LoadError SimulationConfig := do
  let experiment ← yaml.loadExperimentConfig path contents
  return experiment.simulation

end YamlCpp

end DmSimulator
