/-
  DmSimulator.Sim.Simulator

  The simulator (`sim/simulator.cpp`): construction from a configuration, event
  dispatch, the global epoch release, and the run loop.

  The simulator is generic in the cache policy; `construct` instantiates it with
  the policy the configuration names.
-/
import DmSimulator.Cache.ContentionPolicy
import DmSimulator.Lib.Run
import DmSimulator.Nodes.MemoryNode
import DmSimulator.Workloads.Generators

namespace DmSimulator

def makeCachePolicy (A : Arith) (localCacheConfig : LocalCacheConfig) : CachePolicy :=
  match localCacheConfig.policyType with
  | .alwaysRemote => AlwaysRemotePolicy
  | .lru => LruPolicy
  | .hotnessOnly => HotnessOnlyPolicy A localCacheConfig.hotness
  | .globalHottestReplication => GlobalHottestReplicationPolicy
  | .contentionAware =>
      ContentionAwarePolicy localCacheConfig.contention localCacheConfig.capacityBytes

-- ============================================================================
-- The global replica plan
-- ============================================================================

structure ObjectDemand where
  requestCount : Nat := 0
  sizeBytes : Nat := 0
deriving DecidableEq, Repr

abbrev DemandByEpoch : Type := UnorderedMap EpochId (UnorderedMap ObjectId ObjectDemand)

/-- Count one request in the demand tables. -/
def addDemand (demandByEpoch : DemandByEpoch) (request : RequestSpec) : DemandByEpoch :=
  let demands := demandByEpoch.getD request.epochId ∅
  let demand := demands.getD request.objectId {}
  demandByEpoch.insert request.epochId
    (demands.insert request.objectId
      { requestCount := demand.requestCount + 1
        sizeBytes := max demand.sizeBytes request.sizeBytes })

/-- The replicas of one epoch, hottest first, ties by object id. -/
def replicasOfDemand (demands : UnorderedMap ObjectId ObjectDemand) : List CacheReplica :=
  let countOf (replica : CacheReplica) : Nat := (demands.getD replica.objectId {}).requestCount
  (demands.entries.map (fun entry =>
      { objectId := entry.1, sizeBytes := entry.2.sizeBytes : CacheReplica })).insertionSort
    (fun lhs rhs =>
      if countOf lhs ≠ countOf rhs then countOf lhs > countOf rhs
      else lhs.objectId ≤ rhs.objectId)

def buildGlobalReplicaPlan (computeNodes : List ComputeNodeConfig) : GlobalReplicaPlan :=
  let demandByEpoch :=
    (computeNodes.flatMap ComputeNodeConfig.requests).foldl addDemand ∅
  demandByEpoch.entries.foldl
    (fun plan entry => plan.insert entry.1 (replicasOfDemand entry.2)) ∅

-- ============================================================================
-- The simulator
-- ============================================================================

structure Simulator (P : CachePolicy) where
  config : SimulationConfig
  generatedWorkload : Option GeneratedWorkload
  shared : Shared := {}
  globalReplicaPlan : GlobalReplicaPlan := ∅
  computeNodes : KeyedStore (ComputeNode.nodeId (P := P))
  memoryNode : MemoryNode
  eventLog : List EventRecord := []
  releasedEpoch : Option EpochId := none

namespace Simulator

variable {P : CachePolicy} (A : Arith)

/-- The node loop of `validate_config`; `seenComputeNodeIds` is a set. -/
def validateNodes (memoryNodeId : NodeId) :
    List NodeId → List ComputeNodeConfig → Except String Unit
  | _, [] => return ()
  | seenComputeNodeIds, nodeConfig :: rest => do
      throwIf (nodeConfig.nodeId = memoryNodeId)
        "Compute node ID must not match the memory node ID"
      throwIf (nodeConfig.nodeId ∈ seenComputeNodeIds) "Compute node IDs must be unique"
      throwIf (¬ (nodeConfig.requests.map RequestSpec.epochId).IsChain (· ≤ ·))
        "Compute node request streams must be sorted by epoch_id"
      validateNodes memoryNodeId (nodeConfig.nodeId :: seenComputeNodeIds) rest

def validateConfig (config : SimulationConfig) (generatedWorkload : Option GeneratedWorkload) :
    Except String Unit := do
  throwIf (config.localCache.policyType = .globalHottestReplication &&
      generatedWorkload.isNone)
    "Global hottest replication requires synthetic_workload"
  validateNodes config.memoryNodeId [] config.computeNodes

/-- The first part of the constructor: check the configuration and generate the
    synthetic workload, if there is one, into explicit compute nodes. -/
def prepareConfig (rng : RandomSource) (config : SimulationConfig) :
    Except String (SimulationConfig × Option GeneratedWorkload) := do
  throwIf (config.memoryChannelCount = 0) "memory_channel_count must be greater than zero"
  let (config, generatedWorkload) ←
    match config.syntheticWorkload with
    | none => pure (config, none)
    | some synthetic => do
        throwIf (¬ config.computeNodes.isEmpty)
          "Use either synthetic_workload or explicit compute_nodes, not both"
        let synthetic := { synthetic with memoryChannelCount := config.memoryChannelCount }
        let workload ← generateSyntheticWorkload A rng synthetic
        pure
          ({ config with
              syntheticWorkload := some synthetic
              computeNodes := workload.nodeWorkloads.map (fun nodeWorkload =>
                { nodeId := nodeWorkload.nodeId, requests := nodeWorkload.requests }) },
            some workload)
  validateConfig config generatedWorkload
  throwIf (config.memoryBandwidthBytesPerTime = 0)
    "memory_bandwidth_bytes_per_time must be greater than zero"
  return (config, generatedWorkload)

/-- The issue mode of the compute nodes. -/
def issueModeOf (config : SimulationConfig) : WorkloadIssueMode :=
  match config.syntheticWorkload with
  | none => .completionDriven
  | some synthetic => synthetic.issueMode

/-- One compute node of the simulator. -/
def makeComputeNode (P : CachePolicy) (config : SimulationConfig)
    (replicaPlan : Option GlobalReplicaPlan) (nodeConfig : ComputeNodeConfig) : ComputeNode P :=
  { nodeId := nodeConfig.nodeId
    memoryNodeId := config.memoryNodeId
    workload := { requests := nodeConfig.requests }
    issueMode := issueModeOf config
    oneWayLinkLatency := config.oneWayLinkLatency
    localCacheHitLatency := config.localCache.hitLatency
    localCache := { capacityBytes := config.localCache.capacityBytes }
    globalReplicaPlan := replicaPlan }

/-- `compute_nodes_.emplace` for every configured node: a node whose id is taken
    is not stored. -/
def emplaceNodes (P : CachePolicy) (config : SimulationConfig)
    (replicaPlan : Option GlobalReplicaPlan) :
    KeyedStore (ComputeNode.nodeId (P := P)) :=
  config.computeNodes.foldl
    (fun nodes nodeConfig =>
      if nodes.contains nodeConfig.nodeId then nodes
      else nodes.insert (makeComputeNode P config replicaPlan nodeConfig))
    KeyedStore.empty

/-- The second part of the constructor: the simulator of a prepared configuration. -/
def ofConfig (P : CachePolicy) (config : SimulationConfig)
    (generatedWorkload : Option GeneratedWorkload) : Simulator P :=
  let oracle : Bool := config.localCache.policyType = .globalHottestReplication
  let plan := if oracle then buildGlobalReplicaPlan config.computeNodes else ∅
  { config := config
    generatedWorkload := generatedWorkload
    globalReplicaPlan := plan
    computeNodes := emplaceNodes P config (if oracle then some plan else none)
    memoryNode :=
      { nodeId := config.memoryNodeId
        config := config
        channels := List.replicate config.memoryChannelCount {} } }

/-- `Simulator::Simulator`. -/
def construct (rng : RandomSource) (config : SimulationConfig) :
    Except String (Simulator (makeCachePolicy A config.localCache)) := do
  let (prepared, generatedWorkload) ← prepareConfig A rng config
  return ofConfig (makeCachePolicy A config.localCache) prepared generatedWorkload

-- ============================================================================
-- Epoch release
-- ============================================================================

def allComputeNodesIdle (s : Simulator P) : Bool :=
  s.computeNodes.items.all (fun node => node.outstandingRequests = 0)

/-- The loop body of `next_unreleased_epoch` for one node. -/
def considerNode (releasedEpoch nextEpoch : Option EpochId) (node : ComputeNode P) :
    Option EpochId :=
  match node.nextRequestEpoch with
  | none => nextEpoch
  | some nodeEpoch =>
      if releasedEpoch.any (fun released => nodeEpoch ≤ released) then nextEpoch
      else
        match nextEpoch with
        | none => some nodeEpoch
        | some epoch => if nodeEpoch < epoch then some nodeEpoch else some epoch

def nextUnreleasedEpoch (s : Simulator P) : Option EpochId :=
  s.computeNodes.items.foldl (considerNode s.releasedEpoch) none

/-- Schedule the first request of the released epoch of one configured node. -/
def releaseNode (s : Simulator P) (epoch : EpochId) (sh : Shared)
    (nodeConfig : ComputeNodeConfig) : Shared :=
  match s.computeNodes.find nodeConfig.nodeId with
  | none => sh
  | some node =>
      if node.nextRequestEpoch = some epoch then
        sh.schedule
          { time := A.add sh.scheduler.now node.nextRequestIssueOffset
            type := .generateRequest
            targetId := nodeConfig.nodeId }
      else sh

def releaseNextEpochIfReady (s : Simulator P) : Simulator P :=
  if ¬ s.shared.scheduler.empty || ¬ s.allComputeNodesIdle then s
  else
    match s.nextUnreleasedEpoch with
    | none => s
    | some epoch =>
        { s with
          releasedEpoch := some epoch
          shared := s.config.computeNodes.foldl (s.releaseNode A epoch) s.shared }

-- ============================================================================
-- The run loop
-- ============================================================================

def dispatchEvent (s : Simulator P) (event : Event) : Except String (Simulator P) :=
  let s := { s with eventLog := s.eventLog ++ [event.record] }
  match s.computeNodes.find event.targetId with
  | some node => do
      let (node, shared) ← node.handleEvent A event s.shared
      return { s with computeNodes := s.computeNodes.insert node, shared := shared }
  | none =>
      if event.targetId = s.config.memoryNodeId then do
        let (memoryNode, shared) ← s.memoryNode.handleEvent A event s.shared
        return { s with memoryNode := memoryNode, shared := shared }
      else
        throw "Unknown target_id in simulator dispatch"

/-- One turn of `run_until_empty`: pop an event, dispatch it, and release the
    next epoch if everything has drained.  `none` means the queue is empty. -/
def step (s : Simulator P) : Except String (Option (Simulator P)) :=
  match s.shared.scheduler.popNext with
  | none => return none
  | some (event, scheduler) => do
      let s ← dispatchEvent A { s with shared := { s.shared with scheduler := scheduler } } event
      return some (releaseNextEpochIfReady A s)

/-- `Simulator::run` with a bound on the number of loop turns. -/
def run (fuel : Nat) (s : Simulator P) : Except String (Option (Simulator P)) :=
  Run.iterate (step A) fuel (releaseNextEpochIfReady A s)

/-- `Simulator::run` returns, leaving the simulator in `final`. -/
def RunsTo (s final : Simulator P) : Prop :=
  Run.EndsIn (step A) (releaseNextEpochIfReady A s) final

/-- The states of a run: after the initial release, and after every turn. -/
def Reachable (s t : Simulator P) : Prop :=
  Run.Reaches (step A) (releaseNextEpochIfReady A s) t

end Simulator

end DmSimulator
