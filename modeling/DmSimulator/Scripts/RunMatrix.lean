/-
  DmSimulator.Scripts.RunMatrix

  The expansion of the experiment matrix (`scripts/run_matrix.py`): the parsers of
  the sweep lists, the names of the runs and `build_runs`.

  Python's `int` and `float` on a text are a parameter; a finite float is its exact
  value.  A path is the list of its components.
-/
import DmSimulator.Lib.Decimal
import DmSimulator.Lib.Sha1
import DmSimulator.Scripts.HotObjectCapacity
import Mathlib.Data.List.ProdSigma

namespace DmSimulator

-- ============================================================================
-- Policies and levels
-- ============================================================================

def BASE_POLICIES : List String :=
  ["always_remote", "lru", "hotness_only", "global_hottest_replication", "contention_aware"]

def CONTENTION_VARIANT_POLICIES : List String :=
  ["contention_aware_v1", "contention_aware_smoothed", "contention_aware_reuse_gated",
    "contention_aware_hysteresis"]

def POLICIES : List String :=
  BASE_POLICIES ++ ["hotness_only_cumulative", "hotness_only_windowed"] ++
    CONTENTION_VARIANT_POLICIES ++
    ["contention_aware_smoothed_reuse_gated", "contention_aware_smoothed_reuse_gated_hysteresis",
      "contention_aware_size_value"]

def MEMORY_BANDWIDTH_BYTES_PER_TIME_BY_LEVEL : List (String × Nat) :=
  [("mild", 64), ("moderate", 16), ("severe", 4)]

def MEMORY_BASE_LATENCY_BY_LEVEL : List (String × Nat) :=
  [("low", 10), ("medium", 25), ("high", 75)]

def LINK_LATENCY_BY_LEVEL : List (String × Nat) :=
  [("low", 2), ("medium", 6), ("high", 20)]

def RUN_NAME_ALIASES : List (String × String) :=
  [("eval_final_contention_scaling", "final_scale"),
    ("eval_final_node_bandwidth", "final_node_bw"),
    ("eval_final_policy_iteration", "final_policy"),
    ("eval_policy_iteration", "policy_iter"),
    ("eval_interactions_churn_epoch", "int_churn_epoch"),
    ("eval_interactions_cache_hotset", "int_cache_hotset"),
    ("eval_interactions_node_bandwidth", "int_node_bw"),
    ("contention_aware_smoothed", "ca_smoothed"),
    ("contention_aware_smoothed_reuse_gated", "ca_srg"),
    ("contention_aware_smoothed_reuse_gated_hysteresis", "ca_srg_hyst"),
    ("contention_aware_size_value", "ca_size_value"),
    ("contention_aware_reuse_gated", "ca_reuse_gated"),
    ("contention_aware_hysteresis", "ca_hysteresis"),
    ("eval_knob_cache_pressure", "knob_cache"),
    ("eval_knob_epoch_reuse", "knob_epoch"),
    ("eval_knob_object_size_mix", "knob_size_mix"),
    ("eval_knob_hot_concentration", "knob_hotp"),
    ("eval_contention_weight_sensitivity", "weight_sensitivity"),
    ("eval_channel_calibration", "chcal"),
    ("eval_channel_hotspots", "chhot"),
    ("eval_bursty_calibration", "burstcal"),
    ("completion_driven", "comp"),
    ("scheduled_bursty", "burst")]

-- ============================================================================
-- Parsers of the sweep lists
-- ============================================================================

/-- Python's `int` and `float`: `none` is a `ValueError`, and `some none` a float that
    `math.isfinite` refuses. -/
structure Conversions where
  int : String → Option Int
  float : String → Option (Option Rat)

/-- Python's `str.isspace` of one character. -/
def isSpace (c : Char) : Bool :=
  let n := c.toNat
  (9 ≤ n && n ≤ 13) || (28 ≤ n && n ≤ 32) || n == 0x85 || n == 0xA0 || n == 0x1680 ||
    (0x2000 ≤ n && n ≤ 0x200A) || n == 0x2028 || n == 0x2029 || n == 0x202F || n == 0x205F ||
    n == 0x3000

/-- Python's `str.strip`. -/
def stripSpace (text : List Char) : List Char :=
  ((text.dropWhile isSpace).reverse.dropWhile isSpace).reverse

def parseCsvList (value : String) : List String :=
  ((value.toList.splitOn ',').map (fun item => String.ofList (stripSpace item))).filter
    (fun item => item ≠ "")

def parseSeeds (py : Conversions) (value : String) : Except String (List Int) := do
  let seeds ← (parseCsvList value).mapM (fun item =>
    match py.int item with
    | none => throw s!"Invalid seed '{item}': expected integer"
    | some seed => return seed)
  throwIf seeds.isEmpty "At least one seed is required"
  return seeds

def parsePolicies (value : String) : Except String (List String) := do
  let policies := parseCsvList value
  throwIf policies.isEmpty "At least one policy is required"
  let invalid := policies.filter (fun policy => policy ∉ POLICIES)
  throwIf (!invalid.isEmpty)
    ("Invalid policy value(s): " ++ ", ".intercalate invalid ++ ". Expected one of: " ++
      ", ".intercalate POLICIES)
  return policies

/-- `parse_positive_ints` and `parse_nonnegative_ints`. -/
def parseInts (py : Conversions) (refused : Int → Bool) (kind value : String) :
    Except String (List Nat) := do
  let values ← (parseCsvList value).mapM (fun item =>
    match py.int item with
    | none => throw s!"Invalid integer '{item}'"
    | some parsed =>
        if refused parsed then throw s!"Invalid {kind} integer '{item}'"
        else return parsed.toNat)
  throwIf values.isEmpty "At least one integer value is required"
  return values

def parsePositiveInts (py : Conversions) (value : String) : Except String (List Nat) :=
  parseInts py (fun parsed => parsed ≤ 0) "positive" value

def parseNonnegativeInts (py : Conversions) (value : String) : Except String (List Nat) :=
  parseInts py (fun parsed => parsed < 0) "nonnegative" value

/-- `parse_positive_floats` and `parse_probabilities`. -/
def parseFloats (py : Conversions) (refused : Rat → Bool) (expected value label : String) :
    Except String (List Rat) := do
  let values ← (parseCsvList value).mapM (fun item =>
    match py.float item with
    | none => throw s!"Invalid {label} '{item}'"
    | some none => throw s!"Invalid {label} '{item}': expected {expected}"
    | some (some parsed) =>
        if refused parsed then throw s!"Invalid {label} '{item}': expected {expected}"
        else return parsed)
  throwIf values.isEmpty s!"At least one {label} value is required"
  return values

def parsePositiveFloats (py : Conversions) (value label : String) : Except String (List Rat) :=
  parseFloats py (fun parsed => parsed ≤ 0) "> 0" value label

def parseProbabilities (py : Conversions) (value label : String) : Except String (List Rat) :=
  parseFloats py (fun parsed => parsed < 0 || parsed > 1) "[0, 1]" value label

/-- The parsers of named values. -/
def parseNames (allowed : List String) (invalidLabel expected emptyMessage value : String) :
    Except String (List String) := do
  let names := parseCsvList value
  let invalid := names.filter (fun name => name ∉ allowed)
  throwIf (!invalid.isEmpty)
    ("Invalid " ++ invalidLabel ++ ": " ++ ", ".intercalate invalid ++ ". Expected " ++ expected)
  throwIf names.isEmpty emptyMessage
  return names

def parseLevels (value : String) (allowedLevels : List (String × Nat)) (label : String) :
    Except String (List String) :=
  let allowed := allowedLevels.map Prod.fst
  parseNames allowed (label ++ " value(s)") ("one of: " ++ ", ".intercalate allowed)
    s!"At least one {label} value is required" value

def parseOverlaps (value : String) : Except String (List String) :=
  parseNames ["low", "medium", "high"] "overlap value(s)" "low, medium, or high"
    "At least one overlap value is required" value

def parseObjectSizeModes (value : String) : Except String (List String) :=
  parseNames ["fixed", "bimodal"] "object size mode(s)" "fixed or bimodal"
    "At least one object size mode is required" value

def parseWorkloadIssueModes (value : String) : Except String (List String) :=
  parseNames ["completion_driven", "scheduled_bursty"] "workload issue mode(s)"
    "completion_driven or scheduled_bursty" "At least one workload issue mode is required" value

-- ============================================================================
-- Run names
-- ============================================================================

/-- The fields of `MatrixPreset` that `build_runs` reads. -/
structure MatrixPreset where
  name : String
  hotSetMode : HotSetMode

/-- One choice in every dimension of the matrix. -/
@[ext]
structure Dimensions where
  seed : Int
  policy : String
  computeNodeCount : Nat
  objectCount : Nat
  epochCount : Nat
  requestsPerNodePerEpoch : Nat
  workloadIssueMode : String
  burstSize : Nat
  burstInterval : Nat
  intraBurstGap : Nat
  nodePhaseJitter : Nat
  hotSetSize : Nat
  hotAccessProbability : Rat
  hotSetChurnFraction : Rat
  crossNodeOverlap : String
  objectSizeMode : String
  largeObjectProbability : Rat
  cacheCapacityHotsetMultiplier : Rat
  memoryChannelCount : Nat
  hotObjectChannelCount : Nat
  memoryBandwidthLevel : String
  memoryBaseLatencyLevel : String
  linkLatencyLevel : String

structure ContentionWeightProfile where
  profile : String
  weightName : String
  weightValue : Option Rat
deriving DecidableEq

def slugFloat (value : Rat) : String :=
  String.ofList ((Decimal.formatGeneral 5 value).map (fun c => if c = '.' then 'p' else c))

def runNameToken (value : String) : String := (RUN_NAME_ALIASES.lookup value).getD value

def HotSetMode.text : HotSetMode → String
  | .static => "static"
  | .epochShift => "epoch_shift"

/-- One labelled part of a run name. -/
def namePart (label token : String) : String := "__" ++ label ++ "-" ++ token

def weightPart (profile : ContentionWeightProfile) : String :=
  if profile.profile ≠ "" then namePart "weight" (runNameToken profile.profile) else ""

/-- The four numbers after `burst`. -/
def burstToken (d : Dimensions) : String :=
  toString d.burstSize ++ "-" ++ toString d.burstInterval ++ "-" ++ toString d.intraBurstGap ++
    "-" ++ toString d.nodePhaseJitter

/-- The `full_name` of `run_slug`. -/
def fullRunName (preset : MatrixPreset) (profile : ContentionWeightProfile) (d : Dimensions) :
    String :=
  runNameToken preset.name ++
    namePart "policy" (runNameToken d.policy) ++
    weightPart profile ++
    namePart "seed" (toString d.seed) ++
    namePart "nodes" (toString d.computeNodeCount) ++
    namePart "objects" (toString d.objectCount) ++
    namePart "epochs" (toString d.epochCount) ++
    namePart "rpe" (toString d.requestsPerNodePerEpoch) ++
    namePart "issue" (runNameToken d.workloadIssueMode) ++
    namePart "burst" (burstToken d) ++
    namePart "hotset" (toString d.hotSetSize) ++
    namePart "hotp" (slugFloat d.hotAccessProbability) ++
    namePart "mode" preset.hotSetMode.text ++
    namePart "churn" (slugFloat d.hotSetChurnFraction) ++
    namePart "overlap" d.crossNodeOverlap ++
    namePart "size" d.objectSizeMode ++
    namePart "largep" (slugFloat d.largeObjectProbability) ++
    namePart "cachex" (slugFloat d.cacheCapacityHotsetMultiplier) ++
    namePart "memch" (toString d.memoryChannelCount) ++
    namePart "hotch" (toString d.hotObjectChannelCount) ++
    namePart "bw" d.memoryBandwidthLevel ++
    namePart "base" d.memoryBaseLatencyLevel ++
    namePart "link" d.linkLatencyLevel

/-- The part of the SHA-1 digest that a bounded name keeps. -/
def nameDigest (name : String) : List Char := (Sha1.hexdigest name).take 10

def boundedRunName (name : String) (maxLength : Nat) : String :=
  if name.length ≤ maxLength then name
  else
    let digest := nameDigest name
    String.ofList (name.toList.take (maxLength - digest.length - 2)) ++ "__" ++
      String.ofList digest

def runSlug (preset : MatrixPreset) (profile : ContentionWeightProfile) (d : Dimensions) :
    String :=
  boundedRunName (fullRunName preset profile d) 180

-- ============================================================================
-- Contention weight profiles
-- ============================================================================

def NO_CONTENTION_WEIGHT_PROFILE : ContentionWeightProfile :=
  { profile := "", weightName := "", weightValue := none }

def CONTENTION_WEIGHT_NAME_TOKENS : List (String × String) :=
  [("local_hotness_weight", "lh"), ("remote_access_weight", "ra"),
    ("distinct_requester_weight", "dr"), ("queue_wait_weight", "qw"),
    ("remote_service_time_weight", "rs"), ("size_penalty_weight", "sp"),
    ("cost_density_weight", "cd")]

def CONTENTION_WEIGHT_SWEEPS : List (String × List Rat) :=
  [("local_hotness_weight", [0, 1 / 2, 1, 2]), ("remote_access_weight", [0, 1 / 2, 1, 2]),
    ("distinct_requester_weight", [0, 1, 3 / 2, 3]), ("queue_wait_weight", [0, 1, 2, 4]),
    ("remote_service_time_weight", [0, 1 / 2, 1, 2]),
    ("size_penalty_weight", [0, 1 / 4, 1 / 2, 1])]

def profileValueToken (value : Rat) : String :=
  String.ofList ((Decimal.formatGeneral 5 value).map (fun c => if c = '.' then 'p' else c))

def CONTENTION_WEIGHT_PROFILES : List ContentionWeightProfile :=
  CONTENTION_WEIGHT_SWEEPS.flatMap (fun sweep => sweep.2.map (fun value =>
    { profile :=
        (CONTENTION_WEIGHT_NAME_TOKENS.lookup sweep.1).getD "" ++ "-" ++ profileValueToken value
      weightName := sweep.1
      weightValue := some value }))

def contentionWeightProfilesForPolicy (preset : MatrixPreset) (policy : String) :
    List ContentionWeightProfile :=
  if preset.name = "eval_contention_weight_sensitivity" then
    if policy = "contention_aware_smoothed" then CONTENTION_WEIGHT_PROFILES
    else [NO_CONTENTION_WEIGHT_PROFILE]
  else [NO_CONTENTION_WEIGHT_PROFILE]

-- ============================================================================
-- The runs
-- ============================================================================

/-- The components of a path. -/
abbrev Path : Type := List String

structure MatrixRun extends Dimensions where
  preset : MatrixPreset
  contentionWeightProfile : ContentionWeightProfile
  runName : String
  configPath : Path
  outputDir : Path

/-- The selected values of every dimension. -/
structure SweepLists where
  policies : List String
  seeds : List Int
  nodeCounts : List Nat
  objectCounts : List Nat
  epochCounts : List Nat
  epochLengths : List Nat
  workloadIssueModes : List String
  burstSizes : List Nat
  burstIntervals : List Nat
  intraBurstGaps : List Nat
  nodePhaseJitters : List Nat
  hotSetSizes : List Nat
  hotAccessProbabilities : List Rat
  churnFractions : List Rat
  overlaps : List String
  objectSizeModes : List String
  largeObjectProbabilities : List Rat
  cacheMultipliers : List Rat
  memoryChannelCounts : List Nat
  hotObjectChannelCounts : List Nat
  memoryBandwidthLevels : List String
  memoryBaseLatencyLevels : List String
  linkLatencyLevels : List String

/-- The tuples of `itertools.product`. -/
abbrev DimensionTuple : Type :=
  Int × String × Nat × Nat × Nat × Nat × String × Nat × Nat × Nat × Nat × Nat × Rat × Rat ×
    String × String × Rat × Rat × Nat × Nat × String × String × String

def Dimensions.ofTuple : DimensionTuple → Dimensions
  | (seed, policy, nodeCount, objectCount, epochCount, epochLength, workloadIssueMode, burstSize,
      burstInterval, intraBurstGap, nodePhaseJitter, hotSetSize, hotAccessProbability,
      churnFraction, overlap, objectSizeMode, largeProbability, cacheMultiplier,
      memoryChannelCount, hotObjectChannelCount, bandwidthLevel, baseLevel, linkLevel) =>
    { seed := seed
      policy := policy
      computeNodeCount := nodeCount
      objectCount := objectCount
      epochCount := epochCount
      requestsPerNodePerEpoch := epochLength
      workloadIssueMode := workloadIssueMode
      burstSize := burstSize
      burstInterval := burstInterval
      intraBurstGap := intraBurstGap
      nodePhaseJitter := nodePhaseJitter
      hotSetSize := hotSetSize
      hotAccessProbability := hotAccessProbability
      hotSetChurnFraction := churnFraction
      crossNodeOverlap := overlap
      objectSizeMode := objectSizeMode
      largeObjectProbability := largeProbability
      cacheCapacityHotsetMultiplier := cacheMultiplier
      memoryChannelCount := memoryChannelCount
      hotObjectChannelCount := hotObjectChannelCount
      memoryBandwidthLevel := bandwidthLevel
      memoryBaseLatencyLevel := baseLevel
      linkLatencyLevel := linkLevel }

/-- `itertools.product` of the lists: the first dimension varies slowest. -/
def SweepLists.product (s : SweepLists) : List DimensionTuple :=
  s.seeds ×ˢ s.policies ×ˢ s.nodeCounts ×ˢ s.objectCounts ×ˢ s.epochCounts ×ˢ s.epochLengths ×ˢ
    s.workloadIssueModes ×ˢ s.burstSizes ×ˢ s.burstIntervals ×ˢ s.intraBurstGaps ×ˢ
    s.nodePhaseJitters ×ˢ s.hotSetSizes ×ˢ s.hotAccessProbabilities ×ˢ s.churnFractions ×ˢ
    s.overlaps ×ˢ s.objectSizeModes ×ˢ s.largeObjectProbabilities ×ˢ s.cacheMultipliers ×ˢ
    s.memoryChannelCounts ×ˢ s.hotObjectChannelCounts ×ˢ s.memoryBandwidthLevels ×ˢ
    s.memoryBaseLatencyLevels ×ˢ s.linkLatencyLevels

def SweepLists.dimensions (s : SweepLists) : List Dimensions := s.product.map Dimensions.ofTuple

/-- The level that the dictionary of `validate_hot_object_capacity` reads. -/
def overlapNamed : String → Except String CrossNodeOverlap
  | "low" => return .low
  | "medium" => return .medium
  | "high" => return .high
  | overlap => throw s!"KeyError: '{overlap}'"

def matrixRun (preset : MatrixPreset) (resultsDir : Path) (d : Dimensions)
    (profile : ContentionWeightProfile) : MatrixRun :=
  let name := runSlug preset profile d
  { toDimensions := d
    preset := preset
    contentionWeightProfile := profile
    runName := name
    configPath := resultsDir ++ ["generated_configs", name ++ ".yaml"]
    outputDir := resultsDir ++ ["runs", name] }

/-- The body of the loop of `build_runs`: the runs it appends. -/
def runsAt (preset : MatrixPreset) (resultsDir : Path) (d : Dimensions) :
    Except String (List MatrixRun) := do
  if d.hotObjectChannelCount > d.memoryChannelCount then return []
  let overlap ← overlapNamed d.crossNodeOverlap
  validateHotObjectCapacity d.objectCount d.computeNodeCount d.hotSetSize overlap
    preset.hotSetMode d.hotSetChurnFraction d.memoryChannelCount d.hotObjectChannelCount
  throwIf (d.workloadIssueMode = "scheduled_bursty" ∧ d.burstSize > 1 ∧
      d.burstInterval < (d.burstSize - 1) * d.intraBurstGap)
    "Invalid scheduled_bursty timing: burst_interval must be at least (burst_size - 1) * intra_burst_gap"
  return (contentionWeightProfilesForPolicy preset d.policy).map (matrixRun preset resultsDir d)

def buildRuns (preset : MatrixPreset) (sweeps : SweepLists) (resultsDir : Path) :
    Except String (List MatrixRun) :=
  sweeps.dimensions.foldlM (fun runs d => do
    let more ← runsAt preset resultsDir d
    return runs ++ more) []

end DmSimulator
