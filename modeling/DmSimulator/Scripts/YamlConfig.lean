/-
  DmSimulator.Scripts.YamlConfig

  The configuration file of a run of the experiment matrix (`write_yaml_config` of
  `scripts/run_matrix.py`), line by line.  A `KeyError` and a `TypeError` are their
  texts, and products of floats are exact.
-/
import DmSimulator.Lib.YamlBlock
import DmSimulator.Scripts.RunMatrix

namespace DmSimulator

open Decimal

-- ============================================================================
-- Presets
-- ============================================================================

/-- The fields of `MatrixPreset` that go into every configuration of the preset. -/
structure PresetSystem where
  memoryNodeId : Nat
  cacheHitLatency : Nat
  computeNodeIds : List Nat
  objectSizeBytes : Nat
  objectSizeSmallBytes : Nat
  objectSizeLargeBytes : Nat

/-- The presets differ in these fields by their node ids alone. -/
def presetOf (name : String) (nodeCount : Nat) : MatrixPreset × PresetSystem :=
  ({ name := name, hotSetMode := .epochShift },
    { memoryNodeId := 99
      cacheHitLatency := 1
      computeNodeIds := (List.range nodeCount).map (· + 1)
      objectSizeBytes := 64
      objectSizeSmallBytes := 64
      objectSizeLargeBytes := 256 })

def PRESETS : List (MatrixPreset × PresetSystem) :=
  presetOf "quick" 4 ::
    ["phase8", "phase_b"].map (fun name => presetOf name 8) ++
    ["phase_c", "eval_contention_calibration", "eval_final_contention_scaling",
      "eval_policy_viability", "eval_policy_iteration", "eval_final_policy_iteration",
      "eval_channel_calibration", "eval_channel_hotspots", "eval_bursty_calibration",
      "eval_interactions_churn_epoch", "eval_interactions_cache_hotset",
      "eval_interactions_node_bandwidth", "eval_final_node_bandwidth",
      "eval_knob_cache_pressure", "eval_knob_epoch_reuse", "eval_knob_object_size_mix",
      "eval_knob_hot_concentration", "eval_contention_weight_sensitivity",
      "phase_e"].map (fun name => presetOf name 16)

-- ============================================================================
-- Values
-- ============================================================================

/-- An `f"{value:g}"`. -/
def generalText (value : Rat) : String := String.ofList (formatGeneral 5 value)

/-- The `str` of a path. -/
def pathText : Path → String
  | [] => "."
  | "/" :: parts => "/" ++ "/".intercalate parts
  | parts => "/".intercalate parts

/-- The text of a quoted value has its quotes doubled. -/
def yamlString (value : String) : Yaml.Value := .quoted value.toList

def yamlBool (value : Bool) : String := if value then "true" else "false"

def yamlPolicyName (policy : String) : String :=
  if policy ∈ ["hotness_only_cumulative", "hotness_only_windowed"] then "hotness_only"
  else if "contention_aware_".toList.isPrefixOf policy.toList then "contention_aware"
  else policy

def contentionVariantForPolicy (policy : String) : Option String :=
  [("contention_aware", "v1"), ("contention_aware_v1", "v1"),
    ("contention_aware_smoothed", "smoothed"), ("contention_aware_size_value", "smoothed"),
    ("contention_aware_reuse_gated", "reuse_gated"),
    ("contention_aware_hysteresis", "hysteresis"),
    ("contention_aware_smoothed_reuse_gated", "smoothed_reuse_gated"),
    ("contention_aware_smoothed_reuse_gated_hysteresis", "smoothed_reuse_gated")].lookup policy

def hotnessHistoryModeForPolicy (policy : String) : String :=
  if policy = "hotness_only_cumulative" then "cumulative"
  else if policy = "hotness_only_windowed" then "windowed"
  else "epoch"

/-- A dictionary of weights, in the order of its keys. -/
abbrev Weights : Type := List (String × Rat)

def DEFAULT_CONTENTION_WEIGHTS : Weights :=
  [("local_hotness_weight", 1), ("remote_access_weight", 1),
    ("distinct_requester_weight", 3 / 2), ("queue_wait_weight", 2),
    ("remote_service_time_weight", 1), ("size_penalty_weight", 1 / 2), ("cost_density_weight", 0)]

/-- `weights[name] = value`. -/
def Weights.set (weights : Weights) (name : String) (value : Rat) : Weights :=
  if (weights.lookup name).isSome then
    weights.map (fun weight => if weight.1 = name then (name, value) else weight)
  else weights ++ [(name, value)]

def contentionWeightsForProfile (profile : ContentionWeightProfile) : Except String Weights :=
  if profile.weightName ≠ "" then
    match profile.weightValue with
    | none => throw "TypeError: float() argument must be a string or a real number, not 'NoneType'"
    | some value => return DEFAULT_CONTENTION_WEIGHTS.set profile.weightName value
  else return DEFAULT_CONTENTION_WEIGHTS

/-- `table[key]`. -/
def itemOf {T : Type} (table : List (String × T)) (key : String) : Except String T :=
  match table.lookup key with
  | some value => return value
  | none => throw s!"KeyError: '{key}'"

def nodeIdsForRun (system : PresetSystem) (run : MatrixRun) : Except String (List Nat) :=
  if run.computeNodeCount > system.computeNodeIds.length then
    throw s!"Preset {run.preset.name} only defines {system.computeNodeIds.length} compute node IDs"
  else return system.computeNodeIds.take run.computeNodeCount

def memoryBandwidthBytesPerTime (run : MatrixRun) : Except String Nat :=
  itemOf MEMORY_BANDWIDTH_BYTES_PER_TIME_BY_LEVEL run.memoryBandwidthLevel

def memoryBaseLatency (run : MatrixRun) : Except String Nat :=
  itemOf MEMORY_BASE_LATENCY_BY_LEVEL run.memoryBaseLatencyLevel

def oneWayLinkLatency (run : MatrixRun) : Except String Nat :=
  itemOf LINK_LATENCY_BY_LEVEL run.linkLatencyLevel

def cacheCapacityBytes (system : PresetSystem) (run : MatrixRun) : Nat :=
  let hotSetBytes := run.hotSetSize * system.objectSizeBytes
  (max 1 (roundHalfEven (hotSetBytes * run.cacheCapacityHotsetMultiplier))).toNat

-- ============================================================================
-- Lines
-- ============================================================================

/-- A key with a plain value. -/
def field (key value : String) : Yaml.Item := .entry key.toList (.plain value.toList)

def remark (text : String) : Yaml.Item := .comment text.toList

/-- A key and its own fields, in the columns from `indent` on. -/
def sectionLines (indent : Nat) (key : String) (items : List Yaml.Item) : List (List Char) :=
  Yaml.keyLine indent key.toList :: items.map (Yaml.Item.line (indent + 2))

def hotnessItems (policy : String) : List Yaml.Item :=
  let historyMode := hotnessHistoryModeForPolicy policy
  [field "min_admit_count" "2",
    remark " Hotness baselines use explicit history modes so bounded",
    remark " memory can be compared against epoch and cumulative modes.",
    field "history_mode" historyMode] ++
  (if historyMode = "windowed" then [field "history_window_epochs" "4"] else [])

/-- A weight, read from the dictionary. -/
def weightItem (weights : Weights) (name : String) : Except String Yaml.Item := do
  return field name (generalText (← itemOf weights name))

/-- The fields of one variant of the policy. -/
def variantItems (policy variant : String) : List Yaml.Item :=
  if variant = "smoothed" then
    [remark " Smoothed telemetry blends the last few prior epochs",
      remark " so one unlucky epoch does not dominate admissions.",
      field "telemetry_history_epochs" "4",
      field "telemetry_decay" "0.25"]
  else if variant = "reuse_gated" then
    [remark " Reuse gating requires local evidence before a",
      remark " globally contended object can occupy a private cache.",
      field "local_reuse_gate_threshold" "2"]
  else if variant = "hysteresis" then
    [remark " Hysteresis avoids evicting a resident for a nearly",
      remark " equal-scored incoming object.",
      field "eviction_score_margin" "0.25"]
  else if variant = "smoothed_reuse_gated" then
    [remark " Composite policy smooths global telemetry while",
      remark " retaining bounded local confirmation across epochs.",
      field "telemetry_history_epochs" "4",
      field "telemetry_decay" "0.5",
      field "local_reuse_gate_threshold" "2",
      field "local_confirmation_window_epochs" "2",
      remark " Strong remote-pressure scores may bypass pending",
      remark " confirmation to avoid repeating hard-gate under-admission.",
      field "local_confirmation_bypass_score_margin" "1.0",
      field "eviction_score_margin"
        (if policy = "contention_aware_smoothed_reuse_gated_hysteresis" then "0.1" else "0.0")]
  else []

/-- The weights that a configuration lists. -/
def weightsForRun (run : MatrixRun) : Except String Weights := do
  let weights ← contentionWeightsForProfile run.contentionWeightProfile
  if run.policy = "contention_aware_size_value" then return weights.set "cost_density_weight" 1
  else return weights

/-- An f-string writes `None` as it prints it. -/
def variantText (policy : String) : String := (contentionVariantForPolicy policy).getD "None"

def contentionItems (run : MatrixRun) (weightItems : List Yaml.Item) : List Yaml.Item :=
  [field "variant" (variantText run.policy)] ++
    (if run.policy = "contention_aware_size_value" then
      [remark " Size-value uses smoothed telemetry plus cost density",
        remark " to reward high remote pain per cache byte."]
    else []) ++
    (if run.contentionWeightProfile.weightName ≠ "" then
      [remark " Weight-sensitivity profiles override exactly one",
        remark " scoring weight while preserving all other defaults."]
    else []) ++
    weightItems ++
    [field "min_admit_score" "1.0",
      field "local_hotness_threshold" "2",
      field "reset_on_epoch_change" (yamlBool false)] ++
    variantItems run.policy (variantText run.policy)

/-- The lines that only some policies have. -/
def policyLines (run : MatrixRun) : Except String (List (List Char)) :=
  let yamlPolicy := yamlPolicyName run.policy
  if yamlPolicy = "hotness_only" then
    return sectionLines 2 "hotness" (hotnessItems run.policy)
  else if yamlPolicy = "contention_aware" then do
    let weights ← weightsForRun run
    let weightItems ← (DEFAULT_CONTENTION_WEIGHTS.map Prod.fst).mapM (weightItem weights)
    return sectionLines 2 "contention" (contentionItems run weightItems)
  else return []

def experimentItems (run : MatrixRun) : List Yaml.Item :=
  [.entry "name".toList (yamlString run.runName),
    .entry "output_dir".toList (yamlString (pathText run.outputDir))]

def memoryItems (system : PresetSystem) (run : MatrixRun) (baseLatency bandwidth : Nat) :
    List Yaml.Item :=
  [field "node_id" (toString system.memoryNodeId),
    field "base_latency" (toString baseLatency),
    field "bandwidth_bytes_per_time" (toString bandwidth),
    remark " Each channel is an independent FIFO service resource; bandwidth",
    remark " is interpreted per channel when channel_count is greater than one.",
    field "channel_count" (toString run.memoryChannelCount)]

def linkItems (linkLatency : Nat) : List Yaml.Item :=
  [field "one_way_latency" (toString linkLatency)]

def localCacheItems (system : PresetSystem) (run : MatrixRun) : List Yaml.Item :=
  [field "capacity_bytes" (toString (cacheCapacityBytes system run)),
    field "hit_latency" (toString system.cacheHitLatency),
    field "policy" (yamlPolicyName run.policy)]

def workloadItems (system : PresetSystem) (run : MatrixRun) (nodeIds : List Nat) :
    List Yaml.Item :=
  [field "seed" (toString run.seed),
    .entry "compute_node_ids".toList (.flow (nodeIds.map (fun nodeId => (toString nodeId).toList))),
    field "object_count" (toString run.objectCount),
    field "object_size_bytes" (toString system.objectSizeBytes),
    field "hot_set_churn_fraction" (generalText run.hotSetChurnFraction),
    remark " Zero leaves hot objects unrestricted. Positive values create",
    remark " controlled channel-local hot spots for memory-channel studies.",
    field "hot_object_channel_count" (toString run.hotObjectChannelCount),
    field "object_size_mode" run.objectSizeMode,
    field "object_size_small_bytes" (toString system.objectSizeSmallBytes),
    field "object_size_large_bytes" (toString system.objectSizeLargeBytes),
    field "large_object_probability" (generalText run.largeObjectProbability),
    field "requests_per_node_per_epoch" (toString run.requestsPerNodePerEpoch),
    remark " completion_driven preserves response-paced issue. scheduled_bursty",
    remark " lets compute nodes issue by planned arrival time within an epoch.",
    field "issue_mode" run.workloadIssueMode,
    field "burst_size" (toString run.burstSize),
    field "burst_interval" (toString run.burstInterval),
    field "intra_burst_gap" (toString run.intraBurstGap),
    field "node_phase_jitter" (toString run.nodePhaseJitter),
    field "epoch_count" (toString run.epochCount),
    field "hot_set_size" (toString run.hotSetSize),
    field "hot_access_probability" (generalText run.hotAccessProbability),
    field "hot_set_mode" run.preset.hotSetMode.text,
    field "cross_node_overlap" run.crossNodeOverlap]

/-- The `lines` of `write_yaml_config`. -/
def yamlLines (system : PresetSystem) (run : MatrixRun) : Except String (List (List Char)) := do
  let nodeIds ← nodeIdsForRun system run
  let baseLatency ← memoryBaseLatency run
  let bandwidth ← memoryBandwidthBytesPerTime run
  let linkLatency ← oneWayLinkLatency run
  let policy ← policyLines run
  return sectionLines 0 "experiment" (experimentItems run) ++ [[]] ++
    sectionLines 0 "memory" (memoryItems system run baseLatency bandwidth) ++ [[]] ++
    sectionLines 0 "link" (linkItems linkLatency) ++ [[]] ++
    sectionLines 0 "local_cache" (localCacheItems system run) ++ policy ++ [[]] ++
    sectionLines 0 "workload" (workloadItems system run nodeIds) ++ [[]]

/-- The text that `write_yaml_config` writes. -/
def writeYamlConfig (system : PresetSystem) (run : MatrixRun) : Except String String := do
  let lines ← yamlLines system run
  return String.ofList (['\n'].intercalate lines)

end DmSimulator
