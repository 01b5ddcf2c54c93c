/-
  DmSimulator.Scripts.PolicyComparison

  The baseline join of the report script (`scripts/plot_results.py`).

  An aggregate row is a dictionary from column names to the cells of a CSV file;
  a cell missing at the end of a line reads as `none`.  Python's floats are a
  type with the operations the script uses, whatever their rounding.
-/
import DmSimulator.Lib.LastWins
import Mathlib.Algebra.Ring.Rat
import Mathlib.Algebra.Order.Ring.Rat

namespace DmSimulator

open LastWins

/-- A cell as `csv.DictReader` gives it. -/
abbrev CsvCell : Type := Option String

abbrev AggregateRow : Type := UnorderedMap String CsvCell

def GROUP_COLUMNS : List String :=
  ["preset", "seed", "node_count", "epoch_count", "requests_per_node_per_epoch",
    "workload_issue_mode", "burst_size", "burst_interval", "intra_burst_gap",
    "node_phase_jitter", "hot_set_mode", "hot_set_churn_fraction", "cross_node_overlap",
    "object_count", "hot_set_size", "hot_access_probability", "object_size_mode",
    "object_size_bytes", "object_size_small_bytes", "object_size_large_bytes",
    "large_object_probability", "cache_capacity_hotset_multiplier", "cache_capacity_bytes",
    "memory_channel_count", "hot_object_channel_count", "memory_bandwidth_level",
    "memory_bandwidth_bytes_per_time", "memory_base_latency_level", "memory_base_latency",
    "link_latency_level", "one_way_link_latency"]

/-- `row.get(column, default)`. -/
def AggregateRow.getD (row : AggregateRow) (column default : String) : CsvCell :=
  (row.lookup column).getD (some default)

/-- `row.get(column)`. -/
def AggregateRow.get (row : AggregateRow) (column : String) : CsvCell :=
  (row.lookup column).getD none

def groupKey (row : AggregateRow) : List CsvCell :=
  GROUP_COLUMNS.map (fun column => row.getD column "")

/-- Whether `row.get("policy") == baseline_policy`. -/
def isBaseline (baselinePolicy : String) (row : AggregateRow) : Bool :=
  row.get "policy" = some baselinePolicy

/-- One aggregate file: its path, and its rows if it exists. -/
structure AggregateFile where
  path : String
  rows : Option (List AggregateRow)

/-- The rows of one file that `read_aggregate_rows` keeps. -/
def successfulRows (path : String) (rows : List AggregateRow) : List AggregateRow :=
  (rows.filter (fun row => row.getD "status" "success" = some "success")).map
    (fun row => row.insert "_source_aggregate" (some path))

/-- The loop of `read_aggregate_rows` over the files. -/
def readFiles : List AggregateFile → Except String (List AggregateRow)
  | [] => return []
  | file :: rest =>
      match file.rows with
      | none => throw s!"Aggregate file does not exist: {file.path}"
      | some rows => do
          let restRows ← readFiles rest
          return successfulRows file.path rows ++ restRows

def readAggregateRows (files : List AggregateFile) : Except String (List AggregateRow) := do
  let rows ← readFiles files
  if rows.isEmpty then throw "No successful rows found in aggregate input"
  return rows

-- ============================================================================
-- Metrics and deltas
-- ============================================================================

/-- Python's `str.strip`, `float` (`none` for a `ValueError`) and `math.isfinite`. -/
structure FloatText (F : Type) where
  strip : String → String
  float : String → Option F
  isfinite : F → Bool

section Floats

variable {F : Type} (text : FloatText F)

def floatOrNone (value : CsvCell) : Option F :=
  match value with
  | none => none
  | some value =>
      let stripped := text.strip value
      if stripped.isEmpty then none
      else
        match text.float stripped with
        | none => none
        | some parsed => if text.isfinite parsed then some parsed else none

def metric (row : AggregateRow) (column : String) : Option F :=
  floatOrNone text (row.get column)

variable [Zero F] [Add F] [Sub F] [Div F] [Neg F] [LT F] [DecidableLT F] [DecidableEq F]

def ratioDelta (value baseline : Option F) : Option F :=
  match value, baseline with
  | some value, some baseline =>
      if baseline = 0 then none else some ((value - baseline) / baseline)
  | _, _ => none

def absoluteDelta (value baseline : Option F) : Option F :=
  match value, baseline with
  | some value, some baseline => some (value - baseline)
  | _, _ => none

inductive DeltaClass
  | noBaseline
  | win
  | loss
  | tie
deriving DecidableEq, Repr

def classifyDelta (deltaPct : Option F) (tieThreshold : F) : DeltaClass :=
  match deltaPct with
  | none => .noBaseline
  | some deltaPct =>
      if deltaPct < -tieThreshold then .win
      else if tieThreshold < deltaPct then .loss
      else .tie

def sumOptional (lhs rhs : Option F) : Option F :=
  match lhs, rhs with
  | none, none => none
  | _, _ => some (lhs.getD 0 + rhs.getD 0)

-- ============================================================================
-- The comparison rows
-- ============================================================================

structure ComparisonRow (F : Type) where
  group : List CsvCell
  contentionWeightProfile : CsvCell
  contentionWeightName : CsvCell
  contentionWeightValue : CsvCell
  policy : CsvCell
  baselinePolicy : String
  baselineAvailable : Bool
  sourceAggregate : CsvCell
  experimentName : CsvCell
  outputDir : CsvCell
  classification : DeltaClass
  meanLatency : Option F
  baselineMeanLatency : Option F
  meanLatencyDelta : Option F
  meanLatencyDeltaPct : Option F
  p99Latency : Option F
  baselineP99Latency : Option F
  p99LatencyDelta : Option F
  p99LatencyDeltaPct : Option F
  localHitRate : Option F
  baselineLocalHitRate : Option F
  localHitRateDelta : Option F
  averageMemoryWait : Option F
  baselineAverageMemoryWait : Option F
  averageMemoryWaitDelta : Option F
  averageMemoryWaitDeltaPct : Option F
  maxMemoryWait : Option F
  peakMemoryQueueDepth : Option F
  peakMemoryChannelQueueDepth : Option F
  maxChannelTotalQueueWait : Option F
  channelQueueImbalance : Option F
  totalRemoteAccesses : Option F
  baselineTotalRemoteAccesses : Option F
  totalRemoteAccessesDelta : Option F
  totalRemoteAccessesDeltaPct : Option F
  totalQueueWait : Option F
  totalRemoteServiceTime : Option F
  maxObservedQueueDepth : Option F
  estimatedAvoidedRemoteAccesses : Option F
  estimatedAvoidedQueueWait : Option F
  estimatedAvoidedRemoteServiceTime : Option F
  estimatedAvoidedContentionCost : Option F
  admissionYield : Option F
  reuseAfterAdmitRate : Option F
  staleTelemetryRate : Option F
  averageTopObjectOverlap : Option F
  evictionRegretCount : Option F
  remoteEvictionRegretCount : Option F
  jainInverseLatencyFairness : Option F
  baselineJainInverseLatencyFairness : Option F
  jainInverseLatencyFairnessDelta : Option F
  perNodeMeanLatencySpread : Option F
  perNodeP99LatencyMax : Option F

/-- The loop body of `build_policy_comparison`, for the baseline the row has found. -/
def comparisonRow (baselinePolicy : String) (tieThreshold : F) (baseline : Option AggregateRow)
    (row : AggregateRow) : ComparisonRow F :=
  let meanLatency := metric text row "mean_latency"
  let p99Latency := metric text row "p99_latency"
  let hitRate := metric text row "local_hit_rate"
  let memoryWait := metric text row "average_memory_wait"
  let remoteAccesses := metric text row "total_remote_accesses"
  let fairness := metric text row "jain_inverse_latency_fairness"
  let avoidedQueue := metric text row "estimated_avoided_queue_wait"
  let avoidedService := metric text row "estimated_avoided_remote_service_time"
  let baselineMean := baseline.bind (fun baseline => metric text baseline "mean_latency")
  let baselineP99 := baseline.bind (fun baseline => metric text baseline "p99_latency")
  let baselineHit := baseline.bind (fun baseline => metric text baseline "local_hit_rate")
  let baselineWait := baseline.bind (fun baseline => metric text baseline "average_memory_wait")
  let baselineRemote :=
    baseline.bind (fun baseline => metric text baseline "total_remote_accesses")
  let baselineFairness :=
    baseline.bind (fun baseline => metric text baseline "jain_inverse_latency_fairness")
  let meanDeltaPct := ratioDelta meanLatency baselineMean
  { group := groupKey row
    contentionWeightProfile := row.getD "contention_weight_profile" ""
    contentionWeightName := row.getD "contention_weight_name" ""
    contentionWeightValue := row.getD "contention_weight_value" ""
    policy := row.getD "policy" ""
    baselinePolicy := baselinePolicy
    baselineAvailable := baseline.isSome
    sourceAggregate := row.getD "_source_aggregate" ""
    experimentName := row.getD "experiment_name" ""
    outputDir := row.getD "output_dir" ""
    classification := classifyDelta meanDeltaPct tieThreshold
    meanLatency := meanLatency
    baselineMeanLatency := baselineMean
    meanLatencyDelta := absoluteDelta meanLatency baselineMean
    meanLatencyDeltaPct := meanDeltaPct
    p99Latency := p99Latency
    baselineP99Latency := baselineP99
    p99LatencyDelta := absoluteDelta p99Latency baselineP99
    p99LatencyDeltaPct := ratioDelta p99Latency baselineP99
    localHitRate := hitRate
    baselineLocalHitRate := baselineHit
    localHitRateDelta := absoluteDelta hitRate baselineHit
    averageMemoryWait := memoryWait
    baselineAverageMemoryWait := baselineWait
    averageMemoryWaitDelta := absoluteDelta memoryWait baselineWait
    averageMemoryWaitDeltaPct := ratioDelta memoryWait baselineWait
    maxMemoryWait := metric text row "max_memory_wait"
    peakMemoryQueueDepth := metric text row "peak_memory_queue_depth"
    peakMemoryChannelQueueDepth := metric text row "peak_memory_channel_queue_depth"
    maxChannelTotalQueueWait := metric text row "max_channel_total_queue_wait"
    channelQueueImbalance := metric text row "channel_queue_imbalance"
    totalRemoteAccesses := remoteAccesses
    baselineTotalRemoteAccesses := baselineRemote
    totalRemoteAccessesDelta := absoluteDelta remoteAccesses baselineRemote
    totalRemoteAccessesDeltaPct := ratioDelta remoteAccesses baselineRemote
    totalQueueWait := metric text row "total_queue_wait"
    totalRemoteServiceTime := metric text row "total_remote_service_time"
    maxObservedQueueDepth := metric text row "max_observed_queue_depth"
    estimatedAvoidedRemoteAccesses := metric text row "estimated_avoided_remote_accesses"
    estimatedAvoidedQueueWait := avoidedQueue
    estimatedAvoidedRemoteServiceTime := avoidedService
    estimatedAvoidedContentionCost := sumOptional avoidedQueue avoidedService
    admissionYield := metric text row "admission_yield"
    reuseAfterAdmitRate := metric text row "reuse_after_admit_rate"
    staleTelemetryRate := metric text row "stale_telemetry_rate"
    averageTopObjectOverlap := metric text row "average_top_object_overlap"
    evictionRegretCount := metric text row "eviction_regret_count"
    remoteEvictionRegretCount := metric text row "remote_eviction_regret_count"
    jainInverseLatencyFairness := fairness
    baselineJainInverseLatencyFairness := baselineFairness
    jainInverseLatencyFairnessDelta := absoluteDelta fairness baselineFairness
    perNodeMeanLatencySpread := metric text row "per_node_mean_latency_spread"
    perNodeP99LatencyMax := metric text row "per_node_p99_latency_max" }

/-- The `baseline_by_group` dictionary: the last baseline row of a group stays. -/
def baselineByGroup (baselinePolicy : String) (rows : List AggregateRow) :
    UnorderedMap (List CsvCell) AggregateRow :=
  rows.foldl
    (fun baselines row =>
      if isBaseline baselinePolicy row then baselines.insert (groupKey row) row else baselines)
    ∅

def buildPolicyComparison (rows : List AggregateRow) (baselinePolicy : String)
    (tieThreshold : F) : List (ComparisonRow F) :=
  let baselines := baselineByGroup baselinePolicy rows
  rows.map (fun row =>
    comparisonRow text baselinePolicy tieThreshold (baselines.lookup (groupKey row)) row)

-- ============================================================================
-- Row order
-- ============================================================================

/-- The baseline rows among the rows. -/
def baselineRows (baselinePolicy : String) (rows : List AggregateRow) : List AggregateRow :=
  rows.filter (isBaseline baselinePolicy)

theorem baselineByGroup_eq (baselinePolicy : String) (rows : List AggregateRow) :
    baselineByGroup baselinePolicy rows =
      lastByKey groupKey (baselineRows baselinePolicy rows) := by
  unfold baselineByGroup lastByKey baselineRows
  rw [List.foldl_filter]

/-- What a comparison takes from its baseline. -/
structure BaselineMetrics (F : Type) where
  meanLatency : Option F
  p99Latency : Option F
  localHitRate : Option F
  averageMemoryWait : Option F
  totalRemoteAccesses : Option F
  jainInverseLatencyFairness : Option F

def baselineMetrics (row : AggregateRow) : BaselineMetrics F :=
  { meanLatency := metric text row "mean_latency"
    p99Latency := metric text row "p99_latency"
    localHitRate := metric text row "local_hit_rate"
    averageMemoryWait := metric text row "average_memory_wait"
    totalRemoteAccesses := metric text row "total_remote_accesses"
    jainInverseLatencyFairness := metric text row "jain_inverse_latency_fairness" }

variable {text} {baselinePolicy : String} {tieThreshold : F} {rows : List AggregateRow}

/-- Baselines with the same metrics give the same comparison. -/
theorem comparisonRow_congr {baseline baseline' : Option AggregateRow} (row : AggregateRow)
    (h : baseline.map (baselineMetrics text) = baseline'.map (baselineMetrics text)) :
    comparisonRow text baselinePolicy tieThreshold baseline row =
      comparisonRow text baselinePolicy tieThreshold baseline' row := by
  cases baseline with
  | none =>
      cases baseline' with
      | none => rfl
      | some baseline' => cases h
  | some baseline =>
      cases baseline' with
      | none => cases h
      | some baseline' =>
          have hmetrics : baselineMetrics text baseline = baselineMetrics text baseline' :=
            Option.some.inj h
          unfold baselineMetrics at hmetrics
          injection hmetrics with hmean hp99 hhit hwait hremote hfairness
          unfold comparisonRow
          simp only [Option.bind_some, hmean, hp99, hhit, hwait, hremote, hfairness,
            Option.isSome_some]

/-- A comparison shows the metrics of its baseline. -/
theorem baselineMetrics_of_comparisonRow {baseline baseline' row : AggregateRow}
    (h : comparisonRow text baselinePolicy tieThreshold (some baseline) row =
      comparisonRow text baselinePolicy tieThreshold (some baseline') row) :
    baselineMetrics text baseline = baselineMetrics text baseline' := by
  have hmean := congrArg ComparisonRow.baselineMeanLatency h
  have hp99 := congrArg ComparisonRow.baselineP99Latency h
  have hhit := congrArg ComparisonRow.baselineLocalHitRate h
  have hwait := congrArg ComparisonRow.baselineAverageMemoryWait h
  have hremote := congrArg ComparisonRow.baselineTotalRemoteAccesses h
  have hfairness := congrArg ComparisonRow.baselineJainInverseLatencyFairness h
  simp only [comparisonRow, Option.bind_some] at hmean hp99 hhit hwait hremote hfairness
  unfold baselineMetrics
  rw [hmean, hp99, hhit, hwait, hremote, hfairness]

variable (text baselinePolicy tieThreshold rows)

/-- The comparison ignores row order: what a row is compared with is a function of the
    row, whatever order the rows come in. -/
def OrderFree : Prop :=
  ∃ compare : AggregateRow → ComparisonRow F, ∀ rows', rows'.Perm rows →
    buildPolicyComparison text rows' baselinePolicy tieThreshold = rows'.map compare

/-- Baseline rows of one group have the same metrics. -/
def BaselinesAgree : Prop :=
  Agree groupKey (baselineMetrics text) (baselineRows baselinePolicy rows)

variable {text baselinePolicy tieThreshold rows}

theorem BaselinesAgree.orderFree (h : BaselinesAgree text baselinePolicy rows) :
    OrderFree text baselinePolicy tieThreshold rows := by
  refine ⟨fun row => comparisonRow text baselinePolicy tieThreshold
    ((baselineByGroup baselinePolicy rows).lookup (groupKey row)) row, fun rows' hperm => ?_⟩
  unfold buildPolicyComparison
  apply List.map_congr_left
  intro row _
  apply comparisonRow_congr
  rw [baselineByGroup_eq, baselineByGroup_eq]
  exact h.observe_lookup (hperm.filter _) (groupKey row)

theorem OrderFree.baselinesAgree (h : OrderFree text baselinePolicy tieThreshold rows) :
    BaselinesAgree text baselinePolicy rows := by
  obtain ⟨compare, hcompare⟩ := h
  -- with the rows in an order that has `b` as the last baseline row of its group
  have hlast : ∀ b ∈ baselineRows baselinePolicy rows, ∀ a ∈ rows, groupKey b = groupKey a →
      comparisonRow text baselinePolicy tieThreshold (some b) a = compare a := by
    intro b hb a ha hkey
    obtain ⟨hmem, hbaseline⟩ := List.mem_filter.mp hb
    obtain ⟨before, after, rfl⟩ := List.append_of_mem hmem
    have hperm : (before ++ after ++ [b]).Perm (before ++ b :: after) := by
      rw [List.append_assoc]
      exact List.Perm.append_left before List.perm_append_comm
    have hrows := hcompare _ hperm
    unfold buildPolicyComparison at hrows
    have hrow := List.map_inj_left.mp hrows a (hperm.symm.subset ha)
    have hfilter : baselineRows baselinePolicy (before ++ after ++ [b]) =
        baselineRows baselinePolicy (before ++ after) ++ [b] := by
      unfold baselineRows
      rw [List.filter_append (before ++ after), List.filter_singleton, hbaseline]
      rfl
    rw [← hkey, baselineByGroup_eq, hfilter, lookup_lastByKey_snoc, if_pos rfl] at hrow
    exact hrow
  intro a ha b hb hkey
  have hmem := (List.mem_filter.mp ha).1
  have hrow : comparisonRow text baselinePolicy tieThreshold (some a) a =
      comparisonRow text baselinePolicy tieThreshold (some b) a := by
    rw [hlast a ha a hmem rfl, hlast b hb a hmem hkey.symm]
  exact baselineMetrics_of_comparisonRow hrow

/-- Every file has to exist; its rows follow those of the files before it. -/
theorem readFiles_eq_ok {files : List AggregateFile} {rows : List AggregateRow} :
    readFiles files = .ok rows ↔
      (∀ file ∈ files, file.rows ≠ none) ∧
        rows = files.flatMap (fun file => successfulRows file.path (file.rows.getD [])) := by
  induction files generalizing rows with
  | nil =>
      simp only [List.not_mem_nil, false_implies, implies_true, true_and, List.flatMap_nil]
      exact ⟨fun h => (Except.ok.inj h).symm, fun h => congrArg Except.ok h.symm⟩
  | cons file rest ih =>
      unfold readFiles
      rw [List.forall_mem_cons, List.flatMap_cons]
      cases hrows : file.rows with
      | none =>
          refine iff_of_false (fun h => ?_) (fun h => h.1.1 rfl)
          cases h
      | some fileRows =>
          cases hrest : readFiles rest with
          | error message =>
              refine iff_of_false (fun h => ?_) (fun h => ?_)
              · cases h
              · have hok := ih.mpr ⟨h.1.2, rfl⟩
                rw [hrest] at hok
                cases hok
          | ok restRows =>
              obtain ⟨hall, rfl⟩ := ih.mp hrest
              constructor
              · intro h
                exact ⟨⟨Option.some_ne_none _, hall⟩, (Except.ok.inj h).symm⟩
              · rintro ⟨-, rfl⟩
                rfl

theorem readAggregateRows_eq_ok {files : List AggregateFile} {rows : List AggregateRow} :
    readAggregateRows files = .ok rows ↔ readFiles files = .ok rows ∧ rows ≠ [] := by
  unfold readAggregateRows
  cases hread : readFiles files with
  | error message =>
      refine iff_of_false (fun h => ?_) (fun h => ?_)
      · cases h
      · cases h.1
  | ok found =>
      cases found with
      | nil =>
          refine iff_of_false (fun h => ?_) (fun h => ?_)
          · cases h
          · exact h.2 (Except.ok.inj h.1).symm
      | cons row found =>
          constructor
          · intro h
            obtain rfl := Except.ok.inj h
            exact ⟨rfl, List.cons_ne_nil _ _⟩
          · rintro ⟨h, -⟩
            exact h

/-- The order of the files is an order of the rows. -/
theorem readAggregateRows_perm {files files' : List AggregateFile} (h : files'.Perm files)
    {rows : List AggregateRow} (hread : readAggregateRows files = .ok rows) :
    ∃ rows', readAggregateRows files' = .ok rows' ∧ rows'.Perm rows := by
  obtain ⟨hfiles, hne⟩ := readAggregateRows_eq_ok.mp hread
  obtain ⟨hall, rfl⟩ := readFiles_eq_ok.mp hfiles
  have hperm := h.flatMap_right (fun file => successfulRows file.path (file.rows.getD []))
  refine ⟨_, readAggregateRows_eq_ok.mpr ⟨readFiles_eq_ok.mpr ⟨fun file hfile => ?_, rfl⟩, ?_⟩, hperm⟩
  · exact hall file (h.subset hfile)
  · intro hnil
    rw [hnil] at hperm
    exact hne hperm.nil_eq.symm

end Floats

/-- The comparison ignores row order just where the baseline rows of a group have the
    same metrics; files given in another order give the rows in another order. -/
theorem buildPolicyComparison_orderFree_iff {F : Type} [Zero F] [Add F] [Sub F] [Div F] [Neg F]
    [LT F] [DecidableLT F] [DecidableEq F] (text : FloatText F) (rows : List AggregateRow)
    (baselinePolicy : String) (tieThreshold : F) :
    (OrderFree text baselinePolicy tieThreshold rows ↔ BaselinesAgree text baselinePolicy rows) ∧
      ∀ files files' : List AggregateFile, readAggregateRows files = .ok rows →
        files'.Perm files → ∃ rows', readAggregateRows files' = .ok rows' ∧ rows'.Perm rows :=
  ⟨⟨OrderFree.baselinesAgree, BaselinesAgree.orderFree⟩,
    fun _ _ hread hperm => readAggregateRows_perm hperm hread⟩

-- ============================================================================
-- Two runs of one group
-- ============================================================================

/-- Reading of the cells of `profiledRows`. -/
def profiledText : FloatText Rat :=
  { strip := fun value => value
    float := fun value => if value = "100" then some 100 else if value = "200" then some 200 else none
    isfinite := fun _ => true }

/-- A run of a weight profile. -/
def profiledRow (profile meanLatency : String) : AggregateRow :=
  (((∅ : AggregateRow).insert "policy" (some "contention_aware_v1")).insert
    "contention_weight_profile" (some profile)).insert "mean_latency" (some meanLatency)

/-- Two runs that differ in the weight profile, which is no group column. -/
def profiledRows : List AggregateRow :=
  [profiledRow "balanced" "100", profiledRow "queue_heavy" "200"]

/-- The run that is read last is the baseline of both. -/
theorem profiledRows_not_orderFree :
    ¬ OrderFree profiledText "contention_aware_v1" 0 profiledRows := by
  intro h
  have hfirst : profiledRow "balanced" "100" ∈ baselineRows "contention_aware_v1" profiledRows :=
    List.mem_filter.mpr ⟨List.mem_cons_self, by decide +kernel⟩
  have hlast : profiledRow "queue_heavy" "200" ∈
      baselineRows "contention_aware_v1" profiledRows :=
    List.mem_filter.mpr ⟨List.mem_cons_of_mem _ List.mem_cons_self, by decide +kernel⟩
  have hagree := h.baselinesAgree _ hfirst _ hlast (by decide +kernel)
  exact absurd (congrArg BaselineMetrics.meanLatency hagree) (by decide +kernel)

end DmSimulator
