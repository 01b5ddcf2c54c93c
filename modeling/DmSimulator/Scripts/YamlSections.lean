/-
  DmSimulator.Scripts.YamlSections

  What the loader reads in the sections of a run's configuration file: the workload,
  and the cache policy with the blocks that only some policies have.
-/
import DmSimulator.Scripts.YamlDocument

namespace DmSimulator

open Decimal Yaml YamlCpp

-- ============================================================================
-- Runs of a matrix
-- ============================================================================

/-- What the parsers of the sweep lists and `build_runs` promise of a run. -/
structure MatrixRun.Listed (run : MatrixRun) : Prop where
  valid : run.toDimensions.Valid
  profile : run.contentionWeightProfile ∈ contentionWeightProfilesForPolicy run.preset run.policy
  hotAccessProbability : run.hotAccessProbability ≤ 1
  hotSetChurnFraction : run.hotSetChurnFraction ≤ 1
  largeObjectProbability : run.largeObjectProbability ≤ 1
  computeNodeCount : 0 < run.computeNodeCount
  objectCount : 0 < run.objectCount
  epochCount : 0 < run.epochCount
  requestsPerNodePerEpoch : 0 < run.requestsPerNodePerEpoch
  hotSetSize : 0 < run.hotSetSize
  burstSize : 0 < run.burstSize
  burstInterval : 0 < run.burstInterval
  memoryChannelCount : 0 < run.memoryChannelCount
  hotObjectChannelCount : run.hotObjectChannelCount ≤ run.memoryChannelCount

/-- What the presets promise of the system. -/
structure PresetSystem.Valid (system : PresetSystem) : Prop where
  computeNodeIds : ∀ nodeId ∈ system.computeNodeIds, nodeId < 2 ^ 32
  computeNodeIds_nodup : system.computeNodeIds.Nodup
  memoryNode_fresh : system.memoryNodeId ∉ system.computeNodeIds
  memoryNodeId : system.memoryNodeId < 2 ^ 32
  cacheHitLatency : system.cacheHitLatency < 2 ^ 64
  objectSizeBytes : 0 < system.objectSizeBytes ∧ system.objectSizeBytes < 2 ^ 64
  objectSizeSmallBytes : 0 < system.objectSizeSmallBytes
  objectSizes : system.objectSizeSmallBytes ≤ system.objectSizeLargeBytes
  objectSizeLargeBytes : system.objectSizeLargeBytes < 2 ^ 64

variable {yaml : YamlCpp} {run : MatrixRun} {system : PresetSystem}

theorem ok_bind {ε α β : Type} (a : α) (f : α → Except ε β) : (Except.ok a >>= f) = f a := rfl

theorem readNumber_written {x : Rat} (h : 0 ≤ x) :
    readNumber (formatGeneral 5 x) = some (written x) ∧ 0 ≤ written x :=
  ⟨readNumber_formatGeneral 5 x, rounded_nonneg h⟩

@[simp]
theorem itemEntries_field (key value : String) (items : List Item) :
    itemEntries (field key value :: items) = (key, .scalar value) :: itemEntries items := by
  simp only [field, itemEntries, Value.node, String.ofList_toList]

@[simp]
theorem itemEntries_remark (text : String) (items : List Item) :
    itemEntries (remark text :: items) = itemEntries items := rfl

-- ============================================================================
-- The workload
-- ============================================================================

/-- The text of a number as a node. -/
def numberNode (n : Nat) : Node := .scalar (toString n)

def generalNode (x : Rat) : Node := .scalar (generalText x)

def workloadEntries (system : PresetSystem) (run : MatrixRun) : List (String × Node) :=
  [("seed", numberNode run.seed.toNat),
    ("compute_node_ids",
      .sequence ((system.computeNodeIds.take run.computeNodeCount).map numberNode)),
    ("object_count", numberNode run.objectCount),
    ("object_size_bytes", numberNode system.objectSizeBytes),
    ("hot_set_churn_fraction", generalNode run.hotSetChurnFraction),
    ("hot_object_channel_count", numberNode run.hotObjectChannelCount),
    ("object_size_mode", .scalar run.objectSizeMode),
    ("object_size_small_bytes", numberNode system.objectSizeSmallBytes),
    ("object_size_large_bytes", numberNode system.objectSizeLargeBytes),
    ("large_object_probability", generalNode run.largeObjectProbability),
    ("requests_per_node_per_epoch", numberNode run.requestsPerNodePerEpoch),
    ("issue_mode", .scalar run.workloadIssueMode),
    ("burst_size", numberNode run.burstSize),
    ("burst_interval", numberNode run.burstInterval),
    ("intra_burst_gap", numberNode run.intraBurstGap),
    ("node_phase_jitter", numberNode run.nodePhaseJitter),
    ("epoch_count", numberNode run.epochCount),
    ("hot_set_size", numberNode run.hotSetSize),
    ("hot_access_probability", generalNode run.hotAccessProbability),
    ("hot_set_mode", .scalar run.preset.hotSetMode.text),
    ("cross_node_overlap", .scalar run.crossNodeOverlap)]

theorem itemEntries_workloadItems (hseed : 0 ≤ run.seed) :
    itemEntries (workloadItems system run (system.computeNodeIds.take run.computeNodeCount)) =
      workloadEntries system run := by
  have hids : (Value.flow ((system.computeNodeIds.take run.computeNodeCount).map
      (fun nodeId => (toString nodeId).toList))).node =
        .sequence ((system.computeNodeIds.take run.computeNodeCount).map numberNode) := by
    simp only [Value.node, List.map_map, Function.comp_def, String.ofList_toList]
    rfl
  obtain ⟨n, hn⟩ := Int.eq_ofNat_of_zero_le hseed
  have htext : toString run.seed = toString run.seed.toNat := by
    rw [hn]
    rfl
  simp only [workloadItems, itemEntries_field, itemEntries_remark, itemEntries, hids, htext,
    String.ofList_toList]
  rfl

theorem parse_objectSizeMode {mode : String} (h : mode ∈ ["fixed", "bimodal"]) :
    parseObjectSizeMode mode = .ok (objectSizeModeOf mode) := by
  revert mode
  decide

theorem parse_issueMode {mode : String} (h : mode ∈ ["completion_driven", "scheduled_bursty"]) :
    parseWorkloadIssueMode mode = .ok (issueModeNamed mode) := by
  revert mode
  decide

theorem parse_hotSetMode (mode : HotSetMode) : parseHotSetMode mode.text = .ok mode := by
  cases mode <;> rfl

theorem parse_overlap {overlap : String} (h : overlap ∈ ["low", "medium", "high"]) :
    parseCrossNodeOverlap overlap = .ok (overlapOf overlap) := by
  revert overlap
  decide

theorem parseWorkload_document (hyaml : yaml.Documented) (hrun : run.Listed)
    (hsystem : system.Valid) (hfits : run.Fits system) :
    yaml.parseWorkloadConfig
        (.map (workloadEntries system run)) run.memoryChannelCount =
      .ok (run.workload system) := by
  obtain ⟨haccess, haccess0⟩ := readNumber_written hrun.valid.hotAccessProbability
  obtain ⟨hchurn, hchurn0⟩ := readNumber_written hrun.valid.hotSetChurnFraction
  obtain ⟨hlarge, hlarge0⟩ := readNumber_written hrun.valid.largeObjectProbability
  have hchurn1 : written run.hotSetChurnFraction ≤ 1 :=
    rounded_le_one hrun.valid.hotSetChurnFraction hrun.hotSetChurnFraction
  have hlarge1 : written run.largeObjectProbability ≤ 1 :=
    rounded_le_one hrun.valid.largeObjectProbability hrun.largeObjectProbability
  have haccess1 : written run.hotAccessProbability ≤ 1 :=
    rounded_le_one hrun.valid.hotAccessProbability hrun.hotAccessProbability
  have hbound : |written run.hotAccessProbability| ≤ 10 ^ 308 := by
    rw [abs_of_nonneg haccess0]
    exact haccess1.trans (one_le_pow₀ (by norm_num))
  have hids : ∀ nodeId ∈ system.computeNodeIds.take run.computeNodeCount, nodeId < 2 ^ 32 :=
    fun nodeId hmem => hsystem.computeNodeIds nodeId (List.mem_of_mem_take hmem)
  have hseed : run.seed.toNat < 2 ^ 64 := by
    have hnonneg := hfits.seed_nonneg
    have hlt := hfits.seed
    omega
  have hhot : run.hotObjectChannelCount < 2 ^ 64 :=
    hrun.hotObjectChannelCount.trans_lt hfits.memoryChannelCount
  have hsizes := hsystem.objectSizes
  have hlargest := hsystem.objectSizeLargeBytes
  have hsmall : system.objectSizeSmallBytes < 2 ^ 64 := hsizes.trans_lt hlargest
  have hlargePos : 0 < system.objectSizeLargeBytes :=
    hsystem.objectSizeSmallBytes.trans_le hsizes
  -- what the loader reads in each field, in its order
  set entries := workloadEntries system run with hentries
  have rseed := hyaml.requiredU64 "workload" hseed
    (show entries.lookup "seed" = _ from rfl)
  have rids := hyaml.computeNodeIds hids (show entries.lookup "compute_node_ids" = _ from rfl)
  have robjects := hyaml.requiredU64 "workload" hfits.objectCount
    (show entries.lookup "object_count" = _ from rfl)
  have rsize := hyaml.requiredU64 "workload" hsystem.objectSizeBytes.2
    (show entries.lookup "object_size_bytes" = _ from rfl)
  have rchurn := hyaml.probability "workload" 1 hchurn hchurn0 hchurn1
    (show entries.lookup "hot_set_churn_fraction" = _ from rfl)
  have rhot := hyaml.hotObjectChannelCount 0 hhot hrun.hotObjectChannelCount
    (show entries.lookup "hot_object_channel_count" = _ from rfl)
  have rsizeMode := hyaml.optionalName .fixed
    (show entries.lookup "object_size_mode" = _ from rfl)
    (parse_objectSizeMode hrun.valid.objectSizeMode)
  have rsmall := hyaml.positiveU64 "workload" 64 hsmall
    hsystem.objectSizeSmallBytes (show entries.lookup "object_size_small_bytes" = _ from rfl)
  have rlarge := hyaml.positiveU64 "workload" 256 hlargest hlargePos
    (show entries.lookup "object_size_large_bytes" = _ from rfl)
  have rprobability := hyaml.probability "workload" (1 / 10) hlarge hlarge0
    hlarge1 (show entries.lookup "large_object_probability" = _ from rfl)
  have rmode := hyaml.optionalName .completionDriven
    (show entries.lookup "issue_mode" = _ from rfl)
    (parse_issueMode hrun.valid.workloadIssueMode)
  have rburst := hyaml.positiveU64 "workload" 4 hfits.burstSize
    hrun.burstSize (show entries.lookup "burst_size" = _ from rfl)
  have rinterval := hyaml.positiveU64 "workload" 100
    hfits.burstInterval hrun.burstInterval (show entries.lookup "burst_interval" = _ from rfl)
  have rgap := hyaml.optionalU64 1 hfits.intraBurstGap
    (show entries.lookup "intra_burst_gap" = _ from rfl)
  have rjitter := hyaml.optionalU64 0 hfits.nodePhaseJitter
    (show entries.lookup "node_phase_jitter" = _ from rfl)
  have rrequests := hyaml.requiredU64 "workload" hfits.requestsPerNodePerEpoch
    (show entries.lookup "requests_per_node_per_epoch" = _ from rfl)
  have repochs := hyaml.requiredU64 "workload" hfits.epochCount
    (show entries.lookup "epoch_count" = _ from rfl)
  have rhotSet := hyaml.requiredU64 "workload" hfits.hotSetSize
    (show entries.lookup "hot_set_size" = _ from rfl)
  have raccess := hyaml.requiredDouble "workload" haccess hbound
    (show entries.lookup "hot_access_probability" = _ from rfl)
  have rhotMode := hyaml.requiredName "workload"
    (show entries.lookup "hot_set_mode" = _ from rfl) (parse_hotSetMode run.preset.hotSetMode)
  have roverlap := hyaml.requiredName "workload"
    (show entries.lookup "cross_node_overlap" = _ from rfl)
    (parse_overlap hrun.valid.crossNodeOverlap)
  have hsizePos : system.objectSizeBytes ≠ 0 := hsystem.objectSizeBytes.1.ne'
  have hsizesLe : ¬ system.objectSizeSmallBytes > system.objectSizeLargeBytes :=
    not_lt.mpr hsizes
  simp only [parseWorkloadConfig, rseed, rids, robjects, rsize, rchurn, rhot, rsizeMode, rsmall,
    rlarge, rprobability, rmode, rburst, rinterval, rgap, rjitter, rrequests, repochs, rhotSet,
    raccess, rhotMode, roverlap, ok_bind, if_neg hsizePos, if_neg hsizesLe]
  rfl

-- ============================================================================
-- The cache policies
-- ============================================================================

def contentionPolicies : List String :=
  ["contention_aware", "contention_aware_v1", "contention_aware_smoothed",
    "contention_aware_size_value", "contention_aware_reuse_gated", "contention_aware_hysteresis",
    "contention_aware_smoothed_reuse_gated", "contention_aware_smoothed_reuse_gated_hysteresis"]

def weightEntries (weights : ContentionPolicyWeights) : List (String × Node) :=
  weights.entries.map (fun weight => (weight.1, generalNode weight.2))

def contentionEntries (policy : String) (weights : ContentionPolicyWeights) :
    List (String × Node) :=
  ("variant", .scalar (variantText policy)) :: weightEntries weights ++
    [("min_admit_score", .scalar "1.0"), ("local_hotness_threshold", .scalar "2"),
      ("reset_on_epoch_change", .scalar "false")] ++
    itemEntries (variantItems policy (variantText policy))

theorem itemEntries_weightItems (weights : ContentionPolicyWeights) :
    itemEntries (weightItems weights) = weightEntries weights := by
  simp only [weightItems, ContentionPolicyWeights.entries, List.map_cons, List.map_nil,
    itemEntries_field, itemEntries]
  rfl

/-- The remarks are no entries. -/
theorem itemEntries_contentionItems (run : MatrixRun) :
    itemEntries (contentionItems run (weightItems run.writtenWeights)) =
      contentionEntries run.policy run.writtenWeights := by
  have hremarks : ∀ (p : Prop) [Decidable p] (first second : String),
      itemEntries (if p then [remark first, remark second] else []) = [] := by
    intro p _ first second
    split
    next => rfl
    next => rfl
  simp only [contentionItems, itemEntries_append, hremarks, itemEntries_weightItems,
    itemEntries_field, itemEntries, List.append_nil]
  rfl

/-- The fields of the policy that are not weights, as the loader reads them. -/
structure ReadsFields (yaml : YamlCpp) (node : Node) (config : ContentionPolicyConfig) :
    Prop where
  variant : yaml.optionalNamed parseContentionPolicyVariant node "variant" .v1 =
    .ok config.variant
  minAdmitScore : yaml.optionalNonnegativeDouble node "min_admit_score" "local_cache.contention"
    1 = .ok config.minAdmitScore
  localHotnessThreshold : yaml.optionalPositiveU64 node "local_hotness_threshold"
    "local_cache.contention" 2 = .ok config.localHotnessThreshold
  resetOnEpochChange : yaml.optionalAs (convert yaml.asBool) node "reset_on_epoch_change" true =
    .ok config.resetOnEpochChange
  telemetryHistoryEpochs : yaml.optionalPositiveU64 node "telemetry_history_epochs"
    "local_cache.contention" 1 = .ok config.telemetryHistoryEpochs
  telemetryDecay : yaml.optionalNonnegativeDouble node "telemetry_decay" "local_cache.contention"
    1 = .ok config.telemetryDecay
  localReuseGateThreshold : yaml.optionalPositiveU64 node "local_reuse_gate_threshold"
    "local_cache.contention" 2 = .ok config.localReuseGateThreshold
  localConfirmationWindowEpochs : yaml.optionalPositiveU64 node
    "local_confirmation_window_epochs" "local_cache.contention" 2 =
      .ok config.localConfirmationWindowEpochs
  localConfirmationBypassScoreMargin : yaml.optionalNonnegativeDouble node
    "local_confirmation_bypass_score_margin" "local_cache.contention" 1 =
      .ok config.localConfirmationBypassScoreMargin
  evictionScoreMargin : yaml.optionalNonnegativeDouble node "eviction_score_margin"
    "local_cache.contention" 0 = .ok config.evictionScoreMargin

theorem readsFields (hyaml : yaml.Documented) {policy : String} (h : policy ∈ contentionPolicies)
    (weights : ContentionPolicyWeights) (profile : ContentionWeightProfile) :
    ReadsFields yaml (.map (contentionEntries policy weights))
      (contentionConfigOf policy profile) := by
  have hu64 : ∀ {entries : List (String × Node)} {key : String} {current : Nat} (n : Nat),
      0 < n ∧ n < 10 → entries.lookup key = some (.scalar (toString n)) →
        yaml.optionalPositiveU64 (.map entries) key "local_cache.contention" current = .ok n :=
    fun n hn hlookup => hyaml.positiveU64 _ _ (by omega) hn.1 hlookup
  have habsent : ∀ {entries : List (String × Node)} {key : String} {current : Nat},
      entries.lookup key = none →
        yaml.optionalPositiveU64 (.map entries) key "local_cache.contention" current =
          .ok current := fun hlookup => optionalAs_absent hlookup
  have hdouble : ∀ {entries : List (String × Node)} {key : String} {current : Rat}
      (text : String) (x : Rat), readNumber text.toList = some x ∧ 0 ≤ x ∧ x ≤ 1 →
        entries.lookup key = some (.scalar text) →
        yaml.optionalNonnegativeDouble (.map entries) key "local_cache.contention" current =
          .ok x := by
    intro entries key current text x hx hlookup
    refine hyaml.nonnegativeDouble _ _ hx.1 hx.2.1
      (hx.2.2.trans (one_le_pow₀ (by norm_num))) ?_
    rw [String.ofList_toList]
    exact hlookup
  have hmissing : ∀ {entries : List (String × Node)} {key : String} {current : Rat},
      entries.lookup key = none →
        yaml.optionalNonnegativeDouble (.map entries) key "local_cache.contention" current =
          .ok current := fun hlookup => optionalAs_absent hlookup
  have hone : readNumber "1.0".toList = some 1 ∧ (0 : Rat) ≤ 1 ∧ (1 : Rat) ≤ 1 := by
    decide +kernel
  have hhalf : readNumber "0.5".toList = some (1 / 2) ∧ (0 : Rat) ≤ 1 / 2 ∧ (1 / 2 : Rat) ≤ 1 := by
    decide +kernel
  have hquarter : readNumber "0.25".toList = some (1 / 4) ∧ (0 : Rat) ≤ 1 / 4 ∧
      (1 / 4 : Rat) ≤ 1 := by
    decide +kernel
  have htenth : readNumber "0.1".toList = some (1 / 10) ∧ (0 : Rat) ≤ 1 / 10 ∧
      (1 / 10 : Rat) ≤ 1 := by
    decide +kernel
  have hzero : readNumber "0.0".toList = some 0 ∧ (0 : Rat) ≤ 0 ∧ (0 : Rat) ≤ 1 := by
    decide +kernel
  simp only [contentionPolicies, List.mem_cons, List.not_mem_nil, or_false] at h
  -- the fields that a variant gives have the values of its row; the others keep their defaults
  rcases h with rfl | rfl | rfl | rfl | rfl | rfl | rfl | rfl
  all_goals
    exact
      { variant := hyaml.optionalName _ rfl rfl
        minAdmitScore := hdouble "1.0" 1 hone rfl
        localHotnessThreshold := hu64 2 (by decide) rfl
        resetOnEpochChange := hyaml.optionalBool true rfl
        telemetryHistoryEpochs := by
          first
          | exact habsent rfl
          | exact hu64 4 (by decide) rfl
        telemetryDecay := by
          first
          | exact hmissing rfl
          | exact hdouble "0.25" (1 / 4) hquarter rfl
          | exact hdouble "0.5" (1 / 2) hhalf rfl
        localReuseGateThreshold := by
          first
          | exact habsent rfl
          | exact hu64 2 (by decide) rfl
        localConfirmationWindowEpochs := by
          first
          | exact habsent rfl
          | exact hu64 2 (by decide) rfl
        localConfirmationBypassScoreMargin := by
          first
          | exact hmissing rfl
          | exact hdouble "1.0" 1 hone rfl
        evictionScoreMargin := by
          first
          | exact hmissing rfl
          | exact hdouble "0.25" (1 / 4) hquarter rfl
          | exact hdouble "0.0" 0 hzero rfl
          | exact hdouble "0.1" (1 / 10) htenth rfl }

/-- The weights that the `g` format keeps are read as they are. -/
theorem parseContentionWeights_entries (hyaml : yaml.Documented)
    {weights : ContentionPolicyWeights}
    (hkept : ∀ weight ∈ weights.entries, written weight.2 = weight.2 ∧ 0 ≤ weight.2 ∧ weight.2 ≤ 4)
    (policy : String) (current : ContentionPolicyWeights) :
    yaml.parseContentionWeights (.map (contentionEntries policy weights)) current =
      .ok weights := by
  set entries := contentionEntries policy weights with hentries
  have hread : ∀ (key : String) (x default : Rat), (key, x) ∈ weights.entries →
      entries.lookup key = some (generalNode x) →
        yaml.optionalNonnegativeDouble (.map entries) key "local_cache.contention" default =
          .ok x := by
    intro key x default hmem hlookup
    obtain ⟨hsame, hnonneg, hle⟩ := hkept _ hmem
    have htext : readNumber (formatGeneral 5 x) = some x := by
      rw [readNumber_formatGeneral]
      exact congrArg some hsame
    have hbound : x ≤ 10 ^ 308 := by
      have hten : (10 : Rat) ^ 1 ≤ 10 ^ 308 := pow_le_pow_right₀ (by norm_num) (by norm_num)
      have hfour : (4 : Rat) ≤ 10 ^ 1 := by norm_num
      exact hle.trans (hfour.trans hten)
    exact hyaml.nonnegativeDouble _ _ htext hnonneg hbound hlookup
  simp only [ContentionPolicyWeights.entries, List.mem_cons, List.not_mem_nil, or_false] at hread
  have hlocal := hread "local_hotness_weight" weights.localHotnessWeight
    current.localHotnessWeight (by simp) rfl
  have hremote := hread "remote_access_weight" weights.remoteAccessWeight
    current.remoteAccessWeight (by simp) rfl
  have hrequesters := hread "distinct_requester_weight" weights.distinctRequesterWeight
    current.distinctRequesterWeight (by simp) rfl
  have hwait := hread "queue_wait_weight" weights.queueWaitWeight current.queueWaitWeight
    (by simp) rfl
  have hservice := hread "remote_service_time_weight" weights.remoteServiceTimeWeight
    current.remoteServiceTimeWeight (by simp) rfl
  have hsize := hread "size_penalty_weight" weights.sizePenaltyWeight current.sizePenaltyWeight
    (by simp) rfl
  have hdensity := hread "cost_density_weight" weights.costDensityWeight
    current.costDensityWeight (by simp) rfl
  simp only [parseContentionWeights, hlocal, hremote, hrequesters, hwait, hservice, hsize,
    hdensity, ok_bind]
  rfl

theorem contentionConfigOf_weights (hpolicy : run.policy ∈ contentionPolicies) :
    (contentionConfigOf run.policy run.contentionWeightProfile).weights = run.writtenWeights := by
  unfold MatrixRun.writtenWeights
  simp only [contentionPolicies, List.mem_cons, List.not_mem_nil, or_false] at hpolicy
  rcases hpolicy with h | h | h | h | h | h | h | h <;> rw [h] <;> rfl

/-- The parts of the configuration that the loader puts together. -/
theorem parseContention_entries (hyaml : yaml.Documented) (hrun : run.Listed)
    (hpolicy : run.policy ∈ contentionPolicies) {entries : List (String × Node)}
    (hlookup : entries.lookup "contention" =
      some (.map (contentionEntries run.policy run.writtenWeights))) :
    yaml.parseContentionPolicyConfig (.map entries) =
      .ok (contentionConfigOf run.policy run.contentionWeightProfile) := by
  have hfields := readsFields hyaml hpolicy run.writtenWeights run.contentionWeightProfile
  have hweights := parseContentionWeights_entries hyaml (writtenWeights_kept hrun.profile)
    run.policy {}
  simp only [parseContentionPolicyConfig, child, hlookup, pure, Except.pure, ok_bind,
    hfields.variant, hweights, hfields.minAdmitScore, hfields.localHotnessThreshold,
    hfields.resetOnEpochChange, hfields.telemetryHistoryEpochs, hfields.telemetryDecay,
    hfields.localReuseGateThreshold, hfields.localConfirmationWindowEpochs,
    hfields.localConfirmationBypassScoreMargin, hfields.evictionScoreMargin]
  rw [← contentionConfigOf_weights hpolicy]

def hotnessPolicies : List String :=
  ["hotness_only", "hotness_only_cumulative", "hotness_only_windowed"]

theorem parseHotness_entries (hyaml : yaml.Documented) {policy : String}
    (hpolicy : policy ∈ hotnessPolicies) {entries : List (String × Node)}
    (hlookup : entries.lookup "hotness" = some (.map (itemEntries (hotnessItems policy)))) :
    yaml.parseHotnessPolicyConfig (.map entries) = .ok (hotnessConfigOf policy) := by
  have hcount : ∀ {fields : List (String × Node)},
      fields.lookup "min_admit_count" = some (.scalar (toString 2)) →
        yaml.optionalAs (convert yaml.asU64) (.map fields) "min_admit_count" 2 = .ok 2 :=
    fun h => hyaml.optionalU64 2 (by norm_num) h
  simp only [hotnessPolicies, List.mem_cons, List.not_mem_nil, or_false] at hpolicy
  have hwindow : ∀ {fields : List (String × Node)},
      fields.lookup "history_window_epochs" = some (.scalar (toString 4)) →
        yaml.optionalPositiveU64 (.map fields) "history_window_epochs" "local_cache.hotness" 4 =
          .ok 4 :=
    fun h => hyaml.positiveU64 _ 4 (by norm_num) (by decide) h
  have habsent : ∀ {fields : List (String × Node)},
      fields.lookup "history_window_epochs" = none →
        yaml.optionalPositiveU64 (.map fields) "history_window_epochs" "local_cache.hotness" 4 =
          .ok 4 := fun h => optionalAs_absent h
  have hmode : ∀ {fields : List (String × Node)} {text : String} {mode : HotnessHistoryMode},
      fields.lookup "history_mode" = some (.scalar text) →
        parseHotnessHistoryMode text = .ok mode →
          yaml.optionalNamed parseHotnessHistoryMode (.map fields) "history_mode" .epoch =
            .ok mode := fun h hparse => hyaml.optionalName .epoch h hparse
  have hread : ∀ {fields : List (String × Node)} {config : HotnessPolicyConfig},
      entries.lookup "hotness" = some (.map fields) →
      fields.lookup "reset_on_epoch_change" = none →
      yaml.optionalAs (convert yaml.asU64) (.map fields) "min_admit_count" 2 =
        .ok config.minAdmitCount →
      yaml.optionalNamed parseHotnessHistoryMode (.map fields) "history_mode" .epoch =
        .ok config.historyMode →
      yaml.optionalPositiveU64 (.map fields) "history_window_epochs" "local_cache.hotness" 4 =
        .ok config.historyWindowEpochs →
      yaml.parseHotnessPolicyConfig (.map entries) = .ok config := by
    intro fields config hfields hreset hcount hmode hwindow
    simp only [parseHotnessPolicyConfig, child, hfields, hreset, pure, Except.pure, ok_bind, hcount,
      hmode, hwindow]
    rfl
  rcases hpolicy with rfl | rfl | rfl
  · exact hread hlookup rfl (hcount rfl) (hmode rfl rfl) (habsent rfl)
  · exact hread hlookup rfl (hcount rfl) (hmode rfl rfl) (habsent rfl)
  · exact hread hlookup rfl (hcount rfl) (hmode rfl rfl) (hwindow rfl)

/-- The entries under `local_cache` that only some policies have. -/
def policyEntries (run : MatrixRun) : List (String × Node) :=
  if run.policy ∈ hotnessPolicies then
    [("hotness", .map (itemEntries (hotnessItems run.policy)))]
  else if run.policy ∈ contentionPolicies then
    [("contention", .map (contentionEntries run.policy run.writtenWeights))]
  else []

def localCacheEntries (system : PresetSystem) (run : MatrixRun) : List (String × Node) :=
  [("capacity_bytes", numberNode (cacheCapacityBytes system run)),
    ("hit_latency", numberNode system.cacheHitLatency),
    ("policy", .scalar (yamlPolicyName run.policy))] ++ policyEntries run

/-- The families of policies. -/
structure PolicyFamily (policy : String) : Prop where
  name : parseLocalCachePolicy (yamlPolicyName policy) = .ok (policyTypeOf policy)
  hotness : yamlPolicyName policy = "hotness_only" ↔ policy ∈ hotnessPolicies
  contention : yamlPolicyName policy = "contention_aware" ↔ policy ∈ contentionPolicies
  apart : policy ∈ hotnessPolicies → policy ∉ contentionPolicies
  noHotness : policy ∉ hotnessPolicies → hotnessConfigOf policy = {}
  noContention : policy ∉ contentionPolicies → ∀ profile, contentionConfigOf policy profile = {}

theorem policyFamily {policy : String} (h : policy ∈ POLICIES) : PolicyFamily policy := by
  simp only [POLICIES, BASE_POLICIES, CONTENTION_VARIANT_POLICIES, List.cons_append,
    List.nil_append, List.mem_cons, List.not_mem_nil, or_false] at h
  rcases h with rfl | rfl | rfl | rfl | rfl | rfl | rfl | rfl | rfl | rfl | rfl | rfl | rfl | rfl
  all_goals
    exact
      { name := by decide
        hotness := by decide
        contention := by decide
        apart := by decide
        noHotness := by decide
        noContention := by
          intro hnot profile
          first
          | rfl
          | exact absurd (by decide) hnot }

end DmSimulator
