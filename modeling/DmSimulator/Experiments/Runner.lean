/-
  DmSimulator.Experiments.Runner

  The summary of a finished simulation (`experiments/runner.cpp`), with exact
  rationals for the doubles.

  The request table is a hash map, and the loops over it run in its iteration
  order.  Looking up the request of a response can throw, so a summary is an
  `Except`.
-/
import DmSimulator.Metrics.Reports
import DmSimulator.Sim.Diagnostics

namespace DmSimulator

open Ranking

structure PerNodeMetricsSummary where
  nodeId : NodeId := 0
  completedRequests : Nat := 0
  meanLatency : Rat := 0
  p99Latency : Rat := 0
  localCacheHits : Nat := 0
  localCacheMisses : Nat := 0
  localCacheHitRate : Rat := 0
deriving DecidableEq

structure EpochDiagnosticSummary where
  epochId : EpochId := 0
  previousTopCount : Nat := 0
  currentTopCount : Nat := 0
  overlapCount : Nat := 0
  topObjectOverlap : Rat := 0
  staleTelemetryRate : Rat := 0
  previousTopContended : List ObjectId := []
  currentTopRequested : List ObjectId := []
deriving DecidableEq

structure ViabilityMetricsSummary where
  telemetryComparisonObjectCount : Nat := 5
  admissionAttempts : Nat := 0
  successfulPlacements : Nat := 0
  rejectedAdmissions : Nat := 0
  totalFutureHits : Nat := 0
  admissionYield : Rat := 0
  placementsWithReuse : Nat := 0
  reuseAfterAdmitRate : Rat := 0
  staleTelemetryRate : Rat := 0
  averageTopObjectOverlap : Rat := 0
  estimatedAvoidedRemoteAccesses : Nat := 0
  estimatedAvoidedQueueWait : Rat := 0
  estimatedAvoidedRemoteServiceTime : Rat := 0
  evictionRegretCount : Nat := 0
  remoteEvictionRegretCount : Nat := 0
  perNodeMeanLatencySpread : Rat := 0
  perNodeP99LatencySpread : Rat := 0
  jainInverseLatencyFairness : Rat := 0
  epochDiagnostics : List EpochDiagnosticSummary := []
deriving DecidableEq

structure MetricsSummary where
  experimentName : String
  completedRequests : Nat := 0
  meanLatency : Rat := 0
  medianLatency : Rat := 0
  p95Latency : Rat := 0
  p99Latency : Rat := 0
  localCacheHits : Nat := 0
  localCacheMisses : Nat := 0
  localCacheHitRate : Rat := 0
  memoryAverageWait : Rat := 0
  memoryMaxWait : SimTime := 0
  memoryPeakQueueDepth : Nat := 0
  memoryChannelCount : Nat := 1
  memoryPeakChannelQueueDepth : Nat := 0
  maxChannelTotalQueueWait : SimTime := 0
  channelQueueImbalance : Rat := 0
  topByQueueWait : List ObjectContentionStats := []
  topByServiceTime : List ObjectContentionStats := []
  policyAdmitted : Nat := 0
  policyRejected : Nat := 0
  topPolicyDecisions : List PolicyDecisionRecord := []
  perNode : List PerNodeMetricsSummary := []
  viability : ViabilityMetricsSummary := {}
deriving DecidableEq

-- ============================================================================
-- Top objects of an epoch
-- ============================================================================

/-- The comparator of `top_contended_objects`. -/
def topContendedLess (lhs rhs : ObjectContentionStats) : Bool :=
  if lhs.totalQueueWait ≠ rhs.totalQueueWait then lhs.totalQueueWait > rhs.totalQueueWait
  else if lhs.totalRemoteServiceTime ≠ rhs.totalRemoteServiceTime then
    lhs.totalRemoteServiceTime > rhs.totalRemoteServiceTime
  else if lhs.remoteAccesses ≠ rhs.remoteAccesses then lhs.remoteAccesses > rhs.remoteAccesses
  else lhs.objectId < rhs.objectId

def topContendedObjects (stats : Stats) (epochId : EpochId) (limit : Nat) : List ObjectId :=
  ((sortBy topContendedLess (stats.contentionByEpoch epochId)).take limit).map
    ObjectContentionStats.objectId

/-- The `request_counts` of an epoch. -/
def requestCounts (requests : RequestTable) (epochId : EpochId) : UnorderedMap ObjectId Nat :=
  requests.items.foldl
    (fun counts request =>
      if request.epochId = epochId then
        counts.insert request.objectId (counts.getD request.objectId 0 + 1)
      else counts)
    ∅

/-- The comparator of `top_requested_objects`, on an object and its count. -/
def topRequestedLess (lhs rhs : (_ : ObjectId) × Nat) : Bool :=
  if lhs.2 ≠ rhs.2 then lhs.2 > rhs.2 else lhs.1 < rhs.1

def topRequestedObjects (requests : RequestTable) (epochId : EpochId) (limit : Nat) :
    List ObjectId :=
  ((sortBy topRequestedLess (requestCounts requests epochId).entries).take limit).map Sigma.fst

def overlapCount (lhs rhs : List ObjectId) : Nat := lhs.countP (fun objectId => objectId ∈ rhs)

def requestEpochs (requests : RequestTable) : List EpochId :=
  (requests.items.map Request.epochId).dedup.insertionSort (· ≤ ·)

theorem ranksBy_topContendedLess :
    RanksBy
      (fun row : ObjectContentionStats =>
        toLex (OrderDual.toDual row.totalQueueWait,
          toLex (OrderDual.toDual row.totalRemoteServiceTime,
            toLex (OrderDual.toDual row.remoteAccesses, row.objectId))))
      topContendedLess :=
  (((ranksBy_key ObjectContentionStats.objectId).lexDesc
    ObjectContentionStats.remoteAccesses).lexDesc
      ObjectContentionStats.totalRemoteServiceTime).lexDesc ObjectContentionStats.totalQueueWait

theorem ranksBy_topRequestedLess :
    RanksBy (fun entry : (_ : ObjectId) × Nat => toLex (OrderDual.toDual entry.2, entry.1))
      topRequestedLess := by
  have hkey := ranksBy_key fun entry : (_ : ObjectId) × Nat => entry.1
  exact hkey.lexDesc fun entry => entry.2

-- ============================================================================
-- Figures of lists
-- ============================================================================

def valueSpread (values : List Rat) : Rat :=
  match values with
  | [] => 0
  | first :: rest => rest.foldl max first - rest.foldl min first

def maxChannelTotalQueueWait (channels : List ChannelContentionStats) : SimTime :=
  channels.foldl (fun maximum channel => max maximum channel.totalQueueWait) 0

/-- The sum of the queue waits that `channel_queue_imbalance` takes. -/
def channelWaitTotal (A : Arith) (channels : List ChannelContentionStats) : SimTime :=
  channels.foldl (fun total channel => A.add total channel.totalQueueWait) 0

def channelQueueImbalance (A : Arith) (channels : List ChannelContentionStats) : Rat :=
  if channels.isEmpty then 0
  else
    let maximum := maxChannelTotalQueueWait channels
    let total := channelWaitTotal A channels
    if total = 0 then 0
    else
      let average := (total : Rat) / (channels.length : Rat)
      (maximum : Rat) / average

/-- The accumulators of `jain_inverse_latency_fairness`. -/
structure FairnessSums where
  sum : Rat := 0
  sumSquares : Rat := 0
  samples : Nat := 0
deriving DecidableEq

/-- The loop body of `jain_inverse_latency_fairness`. -/
def FairnessSums.addNode (sums : FairnessSums) (node : PerNodeMetricsSummary) : FairnessSums :=
  if node.meanLatency ≤ 0 then sums
  else
    let inverseLatency := 1 / node.meanLatency
    { sum := sums.sum + inverseLatency
      sumSquares := sums.sumSquares + inverseLatency * inverseLatency
      samples := sums.samples + 1 }

def jainInverseLatencyFairness (perNode : List PerNodeMetricsSummary) : Rat :=
  let sums := perNode.foldl FairnessSums.addNode {}
  if sums.samples = 0 ∨ sums.sumSquares = 0 then 0
  else sums.sum * sums.sum / ((sums.samples : Rat) * sums.sumSquares)

def servedTiersByRequest (responses : List Response) : UnorderedMap RequestId ServedFromTier :=
  responses.foldl
    (fun servedTiers response => servedTiers.insert response.requestId response.servedFromTier) ∅

-- ============================================================================
-- Viability metrics
-- ============================================================================

namespace ViabilityMetricsSummary

/-- The loop body over the admission records. -/
def countAdmission (summary : ViabilityMetricsSummary) (record : CacheAdmissionRecord) :
    ViabilityMetricsSummary :=
  if ¬ record.admitted then
    { summary with rejectedAdmissions := summary.rejectedAdmissions + 1 }
  else
    { summary with
      successfulPlacements := summary.successfulPlacements + 1
      totalFutureHits := summary.totalFutureHits + record.futureHitCount
      placementsWithReuse :=
        if record.reusedAfterAdmit then summary.placementsWithReuse + 1
        else summary.placementsWithReuse }

def setAdmissionRates (summary : ViabilityMetricsSummary) : ViabilityMetricsSummary :=
  if summary.successfulPlacements > 0 then
    { summary with
      admissionYield := (summary.totalFutureHits : Rat) / (summary.successfulPlacements : Rat)
      reuseAfterAdmitRate :=
        (summary.placementsWithReuse : Rat) / (summary.successfulPlacements : Rat) }
  else summary

/-- The loop body over the local hits: an answered request is worth the average
    remote cost of its object in the epoch before. -/
def creditResponse (stats : Stats) (requests : RequestTable) (summary : ViabilityMetricsSummary)
    (response : Response) : Except String ViabilityMetricsSummary :=
  if response.servedFromTier ≠ .localCache then return summary
  else
    let summary :=
      { summary with
        estimatedAvoidedRemoteAccesses := summary.estimatedAvoidedRemoteAccesses + 1 }
    match requests.find response.requestId with
    | none => throw "requests.at"
    | some request =>
        match stats.previousEpochObjectContention request.epochId request.objectId with
        | none => return summary
        | some previousStats =>
            if previousStats.remoteAccesses = 0 then return summary
            else
              return { summary with
                estimatedAvoidedQueueWait := summary.estimatedAvoidedQueueWait +
                  (previousStats.totalQueueWait : Rat) / (previousStats.remoteAccesses : Rat)
                estimatedAvoidedRemoteServiceTime :=
                  summary.estimatedAvoidedRemoteServiceTime +
                    (previousStats.totalRemoteServiceTime : Rat) /
                      (previousStats.remoteAccesses : Rat) }

/-- The inner loop body of eviction regret. -/
def countRegret (servedTiers : UnorderedMap RequestId ServedFromTier)
    (record : CacheAdmissionRecord) (summary : ViabilityMetricsSummary) (request : Request) :
    ViabilityMetricsSummary :=
  if request.sourceNodeId ≠ record.nodeId ∨ request.objectId ≠ record.objectId ∨
      request.issueTime < record.evictionTime then summary
  else
    { summary with
      evictionRegretCount := summary.evictionRegretCount + 1
      remoteEvictionRegretCount :=
        if servedTiers.lookup request.requestId = some .memory then
          summary.remoteEvictionRegretCount + 1
        else summary.remoteEvictionRegretCount }

/-- The outer loop body of eviction regret. -/
def countRecordRegret (servedTiers : UnorderedMap RequestId ServedFromTier)
    (requests : RequestTable) (summary : ViabilityMetricsSummary)
    (record : CacheAdmissionRecord) : ViabilityMetricsSummary :=
  if ¬ record.admitted ∨ ¬ record.evicted then summary
  else requests.items.foldl (countRegret servedTiers record) summary

end ViabilityMetricsSummary

/-- The state of the loop over the epochs. -/
structure StalenessSums where
  overlapSum : Rat := 0
  staleSum : Rat := 0
  comparableEpochs : Nat := 0
  epochDiagnostics : List EpochDiagnosticSummary := []

namespace Simulator

variable {P : CachePolicy} (A : Arith) (s : Simulator P)

def telemetryComparisonObjectCount : Nat :=
  let kFallbackObjectCount := 5
  match s.config.syntheticWorkload with
  | none => kFallbackObjectCount
  | some workload =>
      if workload.hotSetSize > 0 then workload.hotSetSize else kFallbackObjectCount

/-- The row of one epoch transition. -/
def epochDiagnostic (epochId : EpochId) : EpochDiagnosticSummary :=
  let previousTopContended :=
    topContendedObjects s.shared.stats (epochId - 1) s.telemetryComparisonObjectCount
  let currentTopRequested :=
    topRequestedObjects s.shared.requestTable epochId s.telemetryComparisonObjectCount
  let overlap := overlapCount previousTopContended currentTopRequested
  let row : EpochDiagnosticSummary :=
    { epochId := epochId
      previousTopCount := previousTopContended.length
      currentTopCount := currentTopRequested.length
      overlapCount := overlap
      previousTopContended := previousTopContended
      currentTopRequested := currentTopRequested }
  if row.previousTopCount > 0 then
    let topObjectOverlap := (overlap : Rat) / (row.previousTopCount : Rat)
    { row with topObjectOverlap := topObjectOverlap, staleTelemetryRate := 1 - topObjectOverlap }
  else row

/-- The loop body over the epochs. -/
def addEpoch (sums : StalenessSums) (epochId : EpochId) : StalenessSums :=
  if epochId = 0 then sums
  else
    let epoch := s.epochDiagnostic epochId
    let sums :=
      if epoch.previousTopCount > 0 then
        { sums with
          overlapSum := sums.overlapSum + epoch.topObjectOverlap
          staleSum := sums.staleSum + epoch.staleTelemetryRate
          comparableEpochs := sums.comparableEpochs + 1 }
      else sums
    { sums with epochDiagnostics := sums.epochDiagnostics ++ [epoch] }

/-- The first part of `summarize_viability_metrics`: the admission records. -/
def admissionMetrics : ViabilityMetricsSummary :=
  let admissionRecords := s.cacheAdmissionDiagnostics
  let summary : ViabilityMetricsSummary :=
    { telemetryComparisonObjectCount := s.telemetryComparisonObjectCount
      admissionAttempts := admissionRecords.length }
  (admissionRecords.foldl ViabilityMetricsSummary.countAdmission summary).setAdmissionRates

/-- The second part of `summarize_viability_metrics`: the epoch transitions. -/
def setStaleness (summary : ViabilityMetricsSummary) : ViabilityMetricsSummary :=
  let sums := (requestEpochs s.shared.requestTable).foldl s.addEpoch {}
  let summary := { summary with epochDiagnostics := sums.epochDiagnostics }
  if sums.comparableEpochs > 0 then
    { summary with
      averageTopObjectOverlap := sums.overlapSum / (sums.comparableEpochs : Rat)
      staleTelemetryRate := sums.staleSum / (sums.comparableEpochs : Rat) }
  else summary

def summarizeViabilityMetrics (perNode : List PerNodeMetricsSummary) :
    Except String ViabilityMetricsSummary := do
  let summary := s.setStaleness s.admissionMetrics
  let summary ← s.shared.responses.foldlM
    (ViabilityMetricsSummary.creditResponse s.shared.stats s.shared.requestTable) summary
  let servedTiers := servedTiersByRequest s.shared.responses
  let summary := s.cacheAdmissionDiagnostics.foldl
    (ViabilityMetricsSummary.countRecordRegret servedTiers s.shared.requestTable) summary
  return { summary with
    perNodeMeanLatencySpread := valueSpread (perNode.map PerNodeMetricsSummary.meanLatency)
    perNodeP99LatencySpread := valueSpread (perNode.map PerNodeMetricsSummary.p99Latency)
    jainInverseLatencyFairness := jainInverseLatencyFairness perNode }

-- ============================================================================
-- The run summary
-- ============================================================================

/-- The row of one configured compute node. -/
def perNodeSummary (nodeConfig : ComputeNodeConfig) : PerNodeMetricsSummary :=
  let stats := s.shared.stats
  { nodeId := nodeConfig.nodeId
    completedRequests := stats.nodeCompletedRequests nodeConfig.nodeId
    meanLatency := stats.nodeAverageLatency nodeConfig.nodeId
    p99Latency := DmSimulator.p99Latency (stats.nodeLatencies nodeConfig.nodeId)
    localCacheHits := stats.nodeLocalCacheHits nodeConfig.nodeId
    localCacheMisses := stats.nodeLocalCacheMisses nodeConfig.nodeId
    localCacheHitRate := stats.nodeLocalCacheHitRate nodeConfig.nodeId }

end Simulator

/-- The comparator of `top_policy_decisions`. -/
def topDecisionLess (lhs rhs : PolicyDecisionRecord) : Bool :=
  if lhs.score.totalScore ≠ rhs.score.totalScore then lhs.score.totalScore > rhs.score.totalScore
  else if lhs.epochId ≠ rhs.epochId then lhs.epochId < rhs.epochId
  else lhs.objectId < rhs.objectId

theorem ranksBy_topDecisionLess :
    RanksBy
      (fun record : PolicyDecisionRecord =>
        toLex (OrderDual.toDual record.score.totalScore, toLex (record.epochId, record.objectId)))
      topDecisionLess :=
  ((ranksBy_key PolicyDecisionRecord.objectId).lex PolicyDecisionRecord.epochId).lexDesc
    fun record => record.score.totalScore

namespace Simulator

variable {P : CachePolicy} (A : Arith) (s : Simulator P)

def topPolicyDecisions : List PolicyDecisionRecord :=
  (sortBy topDecisionLess s.policyDiagnostics).take 5

def summarizeMetrics (experimentName : String) : Except String MetricsSummary := do
  let stats := s.shared.stats
  let channelStats := stats.allChannelContentionStats
  let perNode := s.config.computeNodes.map s.perNodeSummary
  let viability ← s.summarizeViabilityMetrics perNode
  return {
    experimentName := experimentName
    completedRequests := stats.completedRequests
    meanLatency := stats.averageLatency
    medianLatency := medianLatency stats.latencies
    p95Latency := p95Latency stats.latencies
    p99Latency := p99Latency stats.latencies
    localCacheHits := stats.localCacheHits
    localCacheMisses := stats.localCacheMisses
    localCacheHitRate := stats.localCacheHitRate
    memoryAverageWait := stats.averageMemoryWait
    memoryMaxWait := stats.maxMemoryWait
    memoryPeakQueueDepth := stats.peakMemoryQueueDepth
    memoryChannelCount := s.config.memoryChannelCount
    memoryPeakChannelQueueDepth := stats.peakMemoryChannelQueueDepth
    maxChannelTotalQueueWait := maxChannelTotalQueueWait channelStats
    channelQueueImbalance := channelQueueImbalance A channelStats
    topByQueueWait := stats.topContentionObjects .totalQueueWait 5
    topByServiceTime := stats.topContentionObjects .totalRemoteServiceTime 5
    policyAdmitted := s.policyDiagnostics.countP (fun decision => decision.admitted)
    policyRejected := s.policyDiagnostics.countP (fun decision => ! decision.admitted)
    topPolicyDecisions := s.topPolicyDecisions
    perNode := perNode
    viability := viability }

end Simulator

end DmSimulator
