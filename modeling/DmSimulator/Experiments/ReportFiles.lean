/-
  DmSimulator.Experiments.ReportFiles

  The CSV reports of a finished simulation (`experiments/runner.cpp`): a header line
  and one line for each record, as tables of cells.  No figure needs quotes, so that a
  report reads back as its table where its labels need none.
-/
import DmSimulator.Experiments.Runner
import DmSimulator.Lib.Csv
import DmSimulator.Lib.DecimalText

namespace DmSimulator

open Csv Decimal

-- ============================================================================
-- Cells
-- ============================================================================

/-- The last `count` decimal digits of `n`. -/
def lastDigits : Nat → Nat → List Char
  | 0, _ => []
  | count + 1, n => lastDigits count (n / 10) ++ [Nat.digitChar (n % 10)]

/-- `std::fixed` with `std::setprecision(digits)`. -/
def fixedText (digits : Nat) (value : Rat) : List Char :=
  let scaled := (roundHalfEven (|value| * 10 ^ digits)).toNat
  (if value < 0 then ['-'] else []) ++ Nat.toDigits 10 (scaled / 10 ^ digits) ++
    '.' :: lastDigits digits scaled

def natCell (n : Nat) : Cell := (toString n).toList

def realCell (value : Rat) : Cell := fixedText 6 value

def boolCell (value : Bool) : Cell := (if value then "true" else "false").toList

def textCell (value : String) : Cell := value.toList

/-- `join_evicted_objects`. -/
def joinEvictedObjects (objects : List ObjectId) : Cell := ['|'].intercalate (objects.map natCell)

def servedFromTierText : ServedFromTier → String
  | .localCache => "local_cache"
  | .memory => "memory"

/-- A header line and the lines of the records. -/
def csvText (columns : List String) (rows : List (List Cell)) : List Char :=
  plainLines (columns.map textCell :: rows)

-- ============================================================================
-- Rows
-- ============================================================================

def perNodeColumns : List String :=
  ["node_id", "completed_requests", "mean_latency", "p99_latency", "local_cache_hits",
    "local_cache_misses", "local_cache_hit_rate"]

def PerNodeMetricsSummary.cells (node : PerNodeMetricsSummary) : List Cell :=
  [natCell node.nodeId, natCell node.completedRequests, realCell node.meanLatency,
    realCell node.p99Latency, natCell node.localCacheHits, natCell node.localCacheMisses,
    realCell node.localCacheHitRate]

def latencyColumns : List String :=
  ["request_id", "source_node_id", "object_id", "epoch_id", "served_from_tier",
    "completion_time", "total_latency", "bytes_transferred"]

/-- A response, joined with its request. -/
def latencyCells (requests : RequestTable) (response : Response) : Except String (List Cell) :=
  match requests.find response.requestId with
  | none => throw "requests.at"
  | some request =>
      return [natCell response.requestId, natCell request.sourceNodeId, natCell response.objectId,
        natCell request.epochId, textCell (servedFromTierText response.servedFromTier),
        natCell response.completionTime, natCell response.totalLatency,
        natCell response.bytesTransferred]

def contentionByObjectColumns : List String :=
  ["epoch_id", "object_id", "memory_channel_id", "remote_accesses", "distinct_requesters",
    "bytes_served", "total_remote_service_time", "total_queue_wait", "max_queue_wait",
    "queue_wait_samples", "max_observed_queue_depth", "average_queue_wait"]

def ObjectContentionStats.cells (stats : ObjectContentionStats) : List Cell :=
  [natCell stats.epochId, natCell stats.objectId, natCell stats.memoryChannelId,
    natCell stats.remoteAccesses, natCell stats.distinctRequesters, natCell stats.bytesServed,
    natCell stats.totalRemoteServiceTime, natCell stats.totalQueueWait, natCell stats.maxQueueWait,
    natCell stats.queueWaitSamples, natCell stats.maxObservedQueueDepth,
    realCell stats.averageQueueWait]

def contentionByChannelColumns : List String :=
  ["epoch_id", "memory_channel_id", "remote_accesses", "bytes_served",
    "total_remote_service_time", "total_queue_wait", "max_queue_wait", "queue_wait_samples",
    "max_queue_depth", "average_queue_wait"]

def ChannelContentionStats.cells (stats : ChannelContentionStats) : List Cell :=
  [natCell stats.epochId, natCell stats.memoryChannelId, natCell stats.remoteAccesses,
    natCell stats.bytesServed, natCell stats.totalRemoteServiceTime, natCell stats.totalQueueWait,
    natCell stats.maxQueueWait, natCell stats.queueWaitSamples, natCell stats.maxQueueDepth,
    realCell stats.averageQueueWait]

def policyDiagnosticsColumns : List String :=
  ["node_id", "epoch_id", "request_id", "object_id", "admitted", "reason", "policy_variant",
    "total_score", "local_hotness", "remote_accesses", "distinct_requesters", "queue_wait",
    "remote_service_time", "cost_density", "cost_per_cache_byte", "size_penalty",
    "recent_local_confirmation_count", "required_local_confirmation_count",
    "local_confirmation_bypassed", "evicted_objects"]

def PolicyDecisionRecord.cells (decision : PolicyDecisionRecord) : List Cell :=
  [natCell decision.nodeId, natCell decision.epochId, natCell decision.requestId,
    natCell decision.objectId, boolCell decision.admitted, textCell decision.reason,
    textCell decision.policyVariant, realCell decision.score.totalScore,
    realCell decision.score.localHotness, realCell decision.score.remoteAccesses,
    realCell decision.score.distinctRequesters, realCell decision.score.queueWait,
    realCell decision.score.remoteServiceTime, realCell decision.score.costDensity,
    realCell decision.score.costPerCacheByte, realCell decision.score.sizePenalty,
    natCell decision.recentLocalConfirmationCount,
    natCell decision.requiredLocalConfirmationCount, boolCell decision.localConfirmationBypassed,
    joinEvictedObjects decision.evictedObjects]

def cacheAdmissionsColumns : List String :=
  ["node_id", "epoch_id", "request_id", "object_id", "time", "admitted", "reason",
    "placement_source", "size_bytes", "future_hit_count", "reused_after_admit", "evicted",
    "eviction_time", "evicted_objects"]

def CacheAdmissionRecord.cells (record : CacheAdmissionRecord) : List Cell :=
  [natCell record.nodeId, natCell record.epochId, natCell record.requestId,
    natCell record.objectId, natCell record.time, boolCell record.admitted,
    textCell record.reason, textCell record.placementSource, natCell record.sizeBytes,
    natCell record.futureHitCount, boolCell record.reusedAfterAdmit, boolCell record.evicted,
    if record.evicted then natCell record.evictionTime else [],
    joinEvictedObjects record.evictedObjects]

def epochDiagnosticsColumns : List String :=
  ["epoch_id", "previous_top_count", "current_top_count", "overlap_count",
    "top_object_overlap", "stale_telemetry_rate", "previous_top_contended",
    "current_top_requested"]

def EpochDiagnosticSummary.cells (epoch : EpochDiagnosticSummary) : List Cell :=
  [natCell epoch.epochId, natCell epoch.previousTopCount, natCell epoch.currentTopCount,
    natCell epoch.overlapCount, realCell epoch.topObjectOverlap,
    realCell epoch.staleTelemetryRate, joinEvictedObjects epoch.previousTopContended,
    joinEvictedObjects epoch.currentTopRequested]

def viabilityColumns : List String :=
  ["telemetry_comparison_object_count", "admission_attempts", "successful_placements",
    "rejected_admissions", "total_future_hits", "admission_yield", "placements_with_reuse",
    "reuse_after_admit_rate", "stale_telemetry_rate", "average_top_object_overlap",
    "estimated_avoided_remote_accesses", "estimated_avoided_queue_wait",
    "estimated_avoided_remote_service_time", "eviction_regret_count",
    "remote_eviction_regret_count", "per_node_mean_latency_spread",
    "per_node_p99_latency_spread", "jain_inverse_latency_fairness"]

def ViabilityMetricsSummary.cells (viability : ViabilityMetricsSummary) : List Cell :=
  [natCell viability.telemetryComparisonObjectCount, natCell viability.admissionAttempts,
    natCell viability.successfulPlacements, natCell viability.rejectedAdmissions,
    natCell viability.totalFutureHits, realCell viability.admissionYield,
    natCell viability.placementsWithReuse, realCell viability.reuseAfterAdmitRate,
    realCell viability.staleTelemetryRate, realCell viability.averageTopObjectOverlap,
    natCell viability.estimatedAvoidedRemoteAccesses, realCell viability.estimatedAvoidedQueueWait,
    realCell viability.estimatedAvoidedRemoteServiceTime, natCell viability.evictionRegretCount,
    natCell viability.remoteEvictionRegretCount, realCell viability.perNodeMeanLatencySpread,
    realCell viability.perNodeP99LatencySpread, realCell viability.jainInverseLatencyFairness]

-- ============================================================================
-- Files
-- ============================================================================

def writePerNodeCsv (summary : MetricsSummary) : List Char :=
  csvText perNodeColumns (summary.perNode.map PerNodeMetricsSummary.cells)

def writeEpochDiagnosticsCsv (summary : MetricsSummary) : List Char :=
  csvText epochDiagnosticsColumns
    (summary.viability.epochDiagnostics.map EpochDiagnosticSummary.cells)

def writeViabilityMetricsCsv (summary : MetricsSummary) : List Char :=
  csvText viabilityColumns [summary.viability.cells]

namespace Simulator

variable {P : CachePolicy} (s : Simulator P)

def writeLatenciesCsv : Except String (List Char) := do
  let rows ← s.shared.responses.mapM (latencyCells s.shared.requestTable)
  return csvText latencyColumns rows

def writeContentionByObjectCsv : List Char :=
  csvText contentionByObjectColumns
    (s.shared.stats.allContentionStats.map ObjectContentionStats.cells)

def writeContentionByChannelCsv : List Char :=
  csvText contentionByChannelColumns
    (s.shared.stats.allChannelContentionStats.map ChannelContentionStats.cells)

def writePolicyDiagnosticsCsv : List Char :=
  csvText policyDiagnosticsColumns (s.policyDiagnostics.map PolicyDecisionRecord.cells)

def writeCacheAdmissionsCsv : List Char :=
  csvText cacheAdmissionsColumns (s.cacheAdmissionDiagnostics.map CacheAdmissionRecord.cells)

end Simulator

-- ============================================================================
-- Cells without quotes
-- ============================================================================

/-- A cell that is written as it is. -/
def IsPlainCell (cell : Cell) : Prop := ∀ c ∈ cell, isSpecial c = false

instance (cell : Cell) : Decidable (IsPlainCell cell) :=
  List.decidableBAll (fun c : Char => isSpecial c = false) cell

theorem isSpecial_of_isDigit {c : Char} (h : c.isDigit = true) : isSpecial c = false := by
  have hother : ∀ d : Char, d.isDigit = false → c ≠ d := by
    intro d hd heq
    rw [heq, hd] at h
    exact absurd h Bool.false_ne_true
  rw [isSpecial, isNewline, decide_eq_false (hother ',' rfl), decide_eq_false (hother '"' rfl),
    decide_eq_false (hother '\n' rfl), decide_eq_false (hother '\r' rfl)]
  rfl

theorem plain_toDigits (n : Nat) : IsPlainCell (Nat.toDigits 10 n) :=
  fun c hc => isSpecial_of_isDigit (isDigit_toDigits n c hc)

theorem plain_natCell (n : Nat) : IsPlainCell (natCell n) := by
  have hdigits : natCell n = Nat.toDigits 10 n := Nat.toList_repr
  rw [hdigits]
  exact plain_toDigits n

theorem IsPlainCell.append {first second : Cell} (hfirst : IsPlainCell first)
    (hsecond : IsPlainCell second) : IsPlainCell (first ++ second) :=
  fun c hc => (List.mem_append.mp hc).elim (hfirst c) (hsecond c)

theorem plain_lastDigits (count n : Nat) : IsPlainCell (lastDigits count n) := by
  induction count generalizing n with
  | zero => exact fun c hc => absurd hc List.not_mem_nil
  | succ count ih =>
      have hdigit : ∀ d : Fin 10, isSpecial (Nat.digitChar d) = false := by decide
      refine (ih (n / 10)).append (fun c hc => ?_)
      rw [List.mem_singleton.mp hc]
      exact hdigit ⟨n % 10, Nat.mod_lt _ (by decide)⟩

theorem plain_realCell (value : Rat) : IsPlainCell (realCell value) := by
  have hsign : IsPlainCell (if value < 0 then ['-'] else []) := by
    split <;> decide
  have hpoint : IsPlainCell ['.'] := by decide
  exact (hsign.append (plain_toDigits _)).append (hpoint.append (plain_lastDigits 6 _))

theorem plain_boolCell (value : Bool) : IsPlainCell (boolCell value) := by
  cases value <;> decide

theorem plain_joinEvictedObjects (objects : List ObjectId) :
    IsPlainCell (joinEvictedObjects objects) := by
  have hbar : IsPlainCell ['|'] := by decide
  unfold joinEvictedObjects
  induction objects with
  | nil => exact fun c hc => absurd hc List.not_mem_nil
  | cons object rest ih =>
      cases rest with
      | nil =>
          rw [List.map_cons, List.map_nil, List.intercalate_singleton]
          exact plain_natCell object
      | cons next rest =>
          rw [List.map_cons, List.map_cons, List.intercalate_cons_cons]
          exact ((plain_natCell object).append hbar).append ih

/-- A report whose cells need no quotes reads back as its table. -/
theorem readRows_csvText {limit : Option Nat} {columns : List String} {rows : List (List Cell)}
    (hcolumns : 1 < columns.length ∧ ∀ column ∈ columns, IsPlainCell (textCell column))
    (hrows : ∀ row ∈ rows, 1 < row.length ∧ ∀ cell ∈ row, IsPlainCell cell)
    (hfits : ∀ row ∈ columns.map textCell :: rows, ∀ cell ∈ row, Fits limit cell) :
    readRows limit (csvText columns rows) = .ok (columns.map textCell :: rows) := by
  have hlong : ∀ row : List Cell, 1 < row.length → row ≠ [] ∧ row ≠ [[]] := by
    intro row hlength
    constructor
    · rintro rfl
      exact absurd hlength (by decide)
    · rintro rfl
      exact absurd hlength (by decide)
  refine readRows_plainLines ?_ ?_ hfits
  · refine List.forall_mem_cons.mpr ⟨hlong _ ?_, fun row hrow => hlong row (hrows row hrow).1⟩
    rw [List.length_map]
    exact hcolumns.1
  · exact List.forall_mem_cons.mpr
      ⟨List.forall_mem_map.mpr hcolumns.2, fun row hrow => (hrows row hrow).2⟩

end DmSimulator
