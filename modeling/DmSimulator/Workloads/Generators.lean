/-
  DmSimulator.Workloads.Generators

  The synthetic workload generator (`workloads/generators.cpp`).

  The random engine, the distributions and the shuffle are the standard
  library's, and what they draw is not fixed by the code: they are a parameter
  `RandomSource` with the ranges the standard promises.  Churn fractions and
  probabilities are exact rationals, and the container sizes are naturals; the
  burst offsets, which are `SimTime`, go through `Arith`.
-/
import DmSimulator.Sim.Config
import DmSimulator.Workloads.Workload
import Mathlib.Data.Rat.Floor

namespace DmSimulator

/-- `std::mt19937_64` with `std::shuffle`, `std::bernoulli_distribution` and
    `std::uniform_int_distribution`. -/
structure RandomSource where
  Engine : Type
  seed : Nat → Engine
  bernoulli : Rat → Engine → Bool × Engine
  uniformInt : Nat → Nat → Engine → Nat × Engine
  shuffle : List ObjectId → Engine → List ObjectId × Engine
  uniformInt_mem : ∀ lo hi e, lo ≤ hi → lo ≤ (uniformInt lo hi e).1 ∧ (uniformInt lo hi e).1 ≤ hi
  shuffle_perm : ∀ objects e, (shuffle objects e).1.Perm objects

structure HotSetSegments where
  sharedHotObjects : List ObjectId := []
  privateHotObjectsByNode : List (List ObjectId) := []
deriving DecidableEq, Repr

section Counts

variable (config : SyntheticWorkloadConfig)

def sharedHotObjectCount : Nat :=
  match config.crossNodeOverlap with
  | .low => 0
  | .medium => config.hotSetSize / 2
  | .high => config.hotSetSize

def requiredHotObjectsPerEpoch : Nat :=
  let sharedCount := sharedHotObjectCount config
  let privateCount := config.hotSetSize - sharedCount
  sharedCount + privateCount * config.computeNodeIds.length

def effectiveHotSetChurnFraction : Rat :=
  if config.hotSetMode = .static then 0 else config.hotSetChurnFraction

def replacementCount (segmentSize : Nat) (churnFraction : Rat) : Nat :=
  if segmentSize = 0 || churnFraction ≤ 0 then 0
  else if churnFraction ≥ 1 then segmentSize
  else (⌈(segmentSize : Rat) * churnFraction⌉).toNat

def totalReplacementsPerEpoch (churnFraction : Rat) : Nat :=
  let sharedCount := sharedHotObjectCount config
  let privateCount := config.hotSetSize - sharedCount
  replacementCount sharedCount churnFraction +
    replacementCount privateCount churnFraction * config.computeNodeIds.length

/-- Object ids are one-based. -/
def makeObjectUniverse (objectCount : Nat) : List ObjectId := List.range' 1 objectCount

def effectiveHotObjectChannelCount : Nat :=
  if config.hotObjectChannelCount = 0 then config.memoryChannelCount
  else config.hotObjectChannelCount

def eligibleHotObjectCount : Nat :=
  let channelLimit := effectiveHotObjectChannelCount config
  ((makeObjectUniverse config.objectCount).filter (fun objectId =>
    memoryChannelForObject objectId config.memoryChannelCount < channelLimit)).length

def eligibleHotObjects (shuffledObjects : List ObjectId) : List ObjectId :=
  let channelLimit := effectiveHotObjectChannelCount config
  if channelLimit = config.memoryChannelCount then shuffledObjects
  else
    shuffledObjects.filter (fun objectId =>
      memoryChannelForObject objectId config.memoryChannelCount < channelLimit)

end Counts

-- ============================================================================
-- Hot-set layouts
-- ============================================================================

/-- Indexing an empty vector, or reducing an index modulo its size, is undefined
    in the source; the model reports it. -/
def objectAt (objects : List ObjectId) (index : Nat) : Except String ObjectId :=
  match objects[index % objects.length]? with
  | none => .error "object_at on an empty object list"
  | some objectId => .ok objectId

def nextObjects (objects : List ObjectId) (cursor count : Nat) :
    Except String (List ObjectId × Nat) := do
  let selected ← (List.range count).mapM (fun i => objectAt objects (cursor + i))
  return (selected, cursor + count)

/-- The attempts loop of `next_unused_object`. -/
def nextUnusedObject (objects usedObjects disallowedObjects : List ObjectId) :
    Nat → Nat → Except String (ObjectId × Nat)
  | 0, _ => .error "Synthetic workload object_count is too small for requested churn"
  | attempts + 1, cursor => do
      let candidate ← objectAt objects cursor
      if candidate ∉ usedObjects ∧ candidate ∉ disallowedObjects then
        return (candidate, cursor + 1)
      else
        nextUnusedObject objects usedObjects disallowedObjects attempts (cursor + 1)

def keepPrefixForChurn (segment : List ObjectId) (churnFraction : Rat) : List ObjectId :=
  segment.take (segment.length - replacementCount segment.length churnFraction)

/-- The loop of `append_replacements`: `missing` is how far the segment is from
    its final size.  Used objects are a set; the list holds each at most once. -/
def appendReplacements (objects disallowedObjects : List ObjectId) :
    Nat → List ObjectId → Nat → List ObjectId →
      Except String (List ObjectId × Nat × List ObjectId)
  | 0, segment, cursor, usedObjects => return (segment, cursor, usedObjects)
  | missing + 1, segment, cursor, usedObjects => do
      let (replacement, cursor) ←
        nextUnusedObject objects usedObjects disallowedObjects objects.length cursor
      appendReplacements objects disallowedObjects missing (segment ++ [replacement]) cursor
        (usedObjects.insert replacement)

def allHotObjects (segments : HotSetSegments) : List ObjectId :=
  segments.sharedHotObjects ++ segments.privateHotObjectsByNode.flatten

/-- `n` private segments, one after the other. -/
def allocatePrivate (objects : List ObjectId) (privateCount : Nat) :
    Nat → Nat → Except String (List (List ObjectId) × Nat)
  | 0, cursor => return ([], cursor)
  | nodes + 1, cursor => do
      let (segment, cursor) ← nextObjects objects cursor privateCount
      let (rest, cursor) ← allocatePrivate objects privateCount nodes cursor
      return (segment :: rest, cursor)

def allocateHotSetSegments (config : SyntheticWorkloadConfig) (objects : List ObjectId)
    (cursor : Nat) : Except String (HotSetSegments × Nat) := do
  let sharedCount := sharedHotObjectCount config
  let privateCount := config.hotSetSize - sharedCount
  let (shared, cursor) ← nextObjects objects cursor sharedCount
  let (privateSegments, cursor) ←
    allocatePrivate objects privateCount config.computeNodeIds.length cursor
  return ({ sharedHotObjects := shared, privateHotObjectsByNode := privateSegments }, cursor)

/-- Refill the private segments in node order. -/
def refillPrivate (objects disallowedObjects : List ObjectId) :
    List (List ObjectId × Nat) → Nat → List ObjectId →
      Except String (List (List ObjectId) × Nat)
  | [], cursor, _ => return ([], cursor)
  | (segment, finalSize) :: rest, cursor, usedObjects => do
      let (segment, cursor, usedObjects) ←
        appendReplacements objects disallowedObjects (finalSize - segment.length) segment cursor
          usedObjects
      let (rest, cursor) ← refillPrivate objects disallowedObjects rest cursor usedObjects
      return (segment :: rest, cursor)

def churnHotSetSegments (previous : HotSetSegments) (objects : List ObjectId) (cursor : Nat)
    (churnFraction : Rat) : Except String (HotSetSegments × Nat) := do
  let keptShared := keepPrefixForChurn previous.sharedHotObjects churnFraction
  let keptPrivate :=
    previous.privateHotObjectsByNode.map (fun segment => keepPrefixForChurn segment churnFraction)
  let usedObjects := keptShared ++ keptPrivate.flatten
  let previousHotObjects := allHotObjects previous
  let (shared, cursor, usedObjects) ←
    appendReplacements objects previousHotObjects
      (previous.sharedHotObjects.length - keptShared.length) keptShared cursor usedObjects
  let (privateSegments, cursor) ←
    refillPrivate objects previousHotObjects
      (keptPrivate.zip (previous.privateHotObjectsByNode.map List.length)) cursor usedObjects
  return ({ sharedHotObjects := shared, privateHotObjectsByNode := privateSegments }, cursor)

def hotSetForNode (segments : HotSetSegments) (nodeIndex : Nat) : List ObjectId :=
  segments.sharedHotObjects ++ (segments.privateHotObjectsByNode.getD nodeIndex [])

def coldObjectsForNode (objects hotSet : List ObjectId) : List ObjectId :=
  objects.filter (fun objectId => objectId ∉ hotSet)

-- ============================================================================
-- Requests
-- ============================================================================

section Requests

variable (A : Arith) (rng : RandomSource)

def chooseObject (hotSet coldSet : List ObjectId) (hotAccessProbability : Rat)
    (engine : rng.Engine) : Except String (ObjectId × rng.Engine) :=
  let (hotDraw, engine) := rng.bernoulli hotAccessProbability engine
  let chooseHot := hotDraw || coldSet.isEmpty
  let candidates := if chooseHot then hotSet else coldSet
  if candidates.isEmpty then .error "choose_object from an empty candidate vector"
  else
    let (index, engine) := rng.uniformInt 0 (candidates.length - 1) engine
    match candidates[index]? with
    | none => .error "choose_object index out of range"
    | some objectId => .ok (objectId, engine)

/-- Draw one size per object. -/
def drawSizes (config : SyntheticWorkloadConfig) : Nat → rng.Engine → List Nat
  | 0, _ => []
  | objects + 1, engine =>
      let (large, engine) := rng.bernoulli config.largeObjectProbability engine
      (if large then config.objectSizeLargeBytes else config.objectSizeSmallBytes) ::
        drawSizes config objects engine

/-- The one-based lookup table from object id to object size. -/
def objectSizesById (config : SyntheticWorkloadConfig) : List Nat :=
  match config.objectSizeMode with
  | .fixed => List.replicate (config.objectCount + 1) config.objectSizeBytes
  | .bimodal =>
      0 :: drawSizes rng config config.objectCount (rng.seed (config.seed ^^^ 0x9e3779b97f4a7c15))

def nodeEpochJitter (config : SyntheticWorkloadConfig) (nodeId : NodeId) (epochId : EpochId) :
    SimTime :=
  if config.nodePhaseJitter = 0 then 0
  else
    let seed :=
      config.seed ^^^ ((nodeId <<< 32) % Arith.wordSize) ^^^
        ((epochId * 0x9e3779b97f4a7c15) % Arith.wordSize)
    (rng.uniformInt 0 config.nodePhaseJitter (rng.seed seed)).1

def scheduledIssueOffset (config : SyntheticWorkloadConfig) (nodeId : NodeId)
    (epochId : EpochId) (requestIndexInEpoch : Nat) : SimTime :=
  if config.issueMode = .completionDriven then 0
  else
    let burstIndex := requestIndexInEpoch / config.burstSize
    let positionInBurst := requestIndexInEpoch % config.burstSize
    A.add
      (A.add (nodeEpochJitter rng config nodeId epochId)
        (A.mul burstIndex config.burstInterval))
      (A.mul positionInBurst config.intraBurstGap)

-- ============================================================================
-- Validation
-- ============================================================================

/-- Throw `message` if the condition holds. -/
def throwIf (condition : Bool) (message : String) : Except String Unit :=
  if condition then .error message else .ok ()

def validateSyntheticWorkloadConfig (config : SyntheticWorkloadConfig) : Except String Unit := do
  throwIf config.computeNodeIds.isEmpty "Synthetic workload requires compute nodes"
  throwIf (¬ config.computeNodeIds.Nodup)
    "Synthetic workload compute node IDs must be unique"
  throwIf (config.objectCount = 0) "Synthetic workload object_count must be positive"
  throwIf (config.memoryChannelCount = 0)
    "Synthetic workload memory_channel_count must be positive"
  throwIf (config.hotObjectChannelCount > config.memoryChannelCount)
    "Synthetic workload hot_object_channel_count must not exceed memory_channel_count"
  throwIf (config.objectSizeBytes = 0) "Synthetic workload object_size_bytes must be positive"
  throwIf (config.objectSizeSmallBytes = 0 || config.objectSizeLargeBytes = 0)
    "Synthetic workload bimodal object sizes must be positive"
  throwIf (config.objectSizeSmallBytes > config.objectSizeLargeBytes)
    "Synthetic workload object_size_small_bytes must not exceed object_size_large_bytes"
  throwIf (config.requestsPerNodePerEpoch = 0)
    "Synthetic workload requests_per_node_per_epoch must be positive"
  throwIf (config.epochCount = 0) "Synthetic workload epoch_count must be positive"
  throwIf (config.hotSetSize = 0) "Synthetic workload hot_set_size must be positive"
  throwIf (config.hotSetSize > config.objectCount)
    "Synthetic workload hot_set_size must not exceed object_count"
  throwIf (config.hotAccessProbability < 0 || config.hotAccessProbability > 1)
    "Synthetic workload hot_access_probability must be in [0, 1]"
  throwIf (config.hotSetChurnFraction < 0 || config.hotSetChurnFraction > 1)
    "Synthetic workload hot_set_churn_fraction must be in [0, 1]"
  throwIf (config.largeObjectProbability < 0 || config.largeObjectProbability > 1)
    "Synthetic workload large_object_probability must be in [0, 1]"
  throwIf (config.burstSize = 0) "Synthetic workload burst_size must be positive"
  throwIf (config.burstInterval = 0) "Synthetic workload burst_interval must be positive"
  if config.issueMode = .scheduledBursty ∧ config.burstSize > 1 then
    let gapCount := config.burstSize - 1
    throwIf (config.intraBurstGap > (Arith.wordSize - 1) / gapCount)
      "Synthetic workload burst timing overflows SimTime"
    let burstSpan := A.mul gapCount config.intraBurstGap
    throwIf (config.burstInterval < burstSpan)
      "Synthetic workload burst_interval must cover the in-burst request spacing"
  let eligibleCount := eligibleHotObjectCount config
  throwIf (requiredHotObjectsPerEpoch config > eligibleCount)
    "Synthetic workload has too few hot-channel-eligible objects for requested overlap"
  let churnFraction := effectiveHotSetChurnFraction config
  if churnFraction > 0 ∧ churnFraction < 1 then
    let requiredObjects :=
      requiredHotObjectsPerEpoch config + totalReplacementsPerEpoch config churnFraction
    throwIf (requiredObjects > eligibleCount)
      "Synthetic workload has too few hot-channel-eligible objects for requested partial hot-set churn"

-- ============================================================================
-- Generation
-- ============================================================================

/-- The requests of one node in one epoch, from request index `i` on. -/
def generateRequests (config : SyntheticWorkloadConfig) (objectSizes : List Nat)
    (hotSet coldSet : List ObjectId) (nodeId : NodeId) (epochId : EpochId) :
    Nat → Nat → rng.Engine → Except String (List RequestSpec × rng.Engine)
  | 0, _, engine => return ([], engine)
  | count + 1, i, engine => do
      let (objectId, engine) ←
        chooseObject rng hotSet coldSet config.hotAccessProbability engine
      let spec : RequestSpec :=
        { objectId := objectId
          sizeBytes := objectSizes.getD objectId 0
          epochId := epochId
          scheduledIssueOffset := scheduledIssueOffset A rng config nodeId epochId i }
      let (rest, engine) ←
        generateRequests config objectSizes hotSet coldSet nodeId epochId count (i + 1) engine
      return (spec :: rest, engine)

/-- One epoch of requests for every node, in node order. -/
def generateEpoch (config : SyntheticWorkloadConfig) (objects : List ObjectId)
    (objectSizes : List Nat) (segments : HotSetSegments) (epochId : EpochId) :
    Nat → List NodeWorkload → UnorderedMap NodeId (List ObjectId) → rng.Engine →
      Except String (List NodeWorkload × UnorderedMap NodeId (List ObjectId) × rng.Engine)
  | _, [], hotSets, engine => return ([], hotSets, engine)
  | nodeIndex, nodeWorkload :: rest, hotSets, engine => do
      let hotSet := hotSetForNode segments nodeIndex
      let coldSet := coldObjectsForNode objects hotSet
      let (requests, engine) ←
        generateRequests A rng config objectSizes hotSet coldSet nodeWorkload.nodeId epochId
          config.requestsPerNodePerEpoch 0 engine
      let (rest, hotSets, engine) ←
        generateEpoch config objects objectSizes segments epochId (nodeIndex + 1) rest
          (hotSets.insert nodeWorkload.nodeId hotSet) engine
      return ({ nodeWorkload with requests := nodeWorkload.requests ++ requests } :: rest,
        hotSets, engine)

/-- The hot-set layout of an epoch and the cursor after allocating it. -/
def epochLayout (config : SyntheticWorkloadConfig) (hotObjectCandidates : List ObjectId)
    (epochId : EpochId) (segments : HotSetSegments) (cursor : Nat) :
    Except String (HotSetSegments × Nat) :=
  let churnFraction := effectiveHotSetChurnFraction config
  if epochId = 0 then
    allocateHotSetSegments config hotObjectCandidates cursor
  else if churnFraction ≥ 1 then
    if hotObjectCandidates.isEmpty then .error "modulus by an empty candidate list"
    else
      allocateHotSetSegments config hotObjectCandidates
        ((epochId * requiredHotObjectsPerEpoch config) % hotObjectCandidates.length)
  else if churnFraction > 0 then
    churnHotSetSegments segments hotObjectCandidates cursor churnFraction
  else
    .ok (segments, cursor)

/-- The epoch loop of `generate_synthetic_workload`. -/
def generateEpochs (config : SyntheticWorkloadConfig)
    (objects hotObjectCandidates : List ObjectId) (objectSizes : List Nat) :
    Nat → EpochId → HotSetSegments → Nat → rng.Engine → GeneratedWorkload →
      Except String GeneratedWorkload
  | 0, _, _, _, _, workload => return workload
  | epochs + 1, epochId, segments, cursor, engine, workload => do
      let (segments, cursor) ←
        epochLayout config hotObjectCandidates epochId segments cursor
      let (nodeWorkloads, hotSets, engine) ←
        generateEpoch A rng config objects objectSizes segments epochId 0
          workload.nodeWorkloads ∅ engine
      generateEpochs config objects hotObjectCandidates objectSizes epochs (epochId + 1)
        segments cursor engine
        { nodeWorkloads := nodeWorkloads
          epochs := workload.epochs ++ [{ epochId := epochId, hotSetsByNode := hotSets }] }

def generateSyntheticWorkload (config : SyntheticWorkloadConfig) :
    Except String GeneratedWorkload := do
  validateSyntheticWorkloadConfig A config
  let (objects, engine) :=
    rng.shuffle (makeObjectUniverse config.objectCount) (rng.seed config.seed)
  let hotObjectCandidates := eligibleHotObjects config objects
  let objectSizes := objectSizesById rng config
  generateEpochs A rng config objects hotObjectCandidates objectSizes config.epochCount 0 {} 0
    engine
    { nodeWorkloads :=
        config.computeNodeIds.map (fun nodeId => { nodeId := nodeId, requests := [] })
      epochs := [] }

end Requests

end DmSimulator
